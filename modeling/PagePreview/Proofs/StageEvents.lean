import PagePreview.Server.Stages

/-!
# What the stages do

For each stage: the exact condition under which it answers, the answer, and a list of all that it
may do on the way. A stage tests, opens and hands on nothing but what is listed here, so what holds
of every entry of the list holds of every event of a run.
-/

namespace PagePreview

namespace Traced

/-- Everything that is done has a property. -/
def All {α : Type} (P : Event → Prop) (x : Traced α) : Prop := ∀ e ∈ x.events, P e

variable {α β : Type} {P Q : Event → Prop}

/-- One step after another: the events of both, and what comes of the second. -/
theorem bind_eq (x : Traced α) (f : α → Traced β) :
    (x >>= f) = ⟨(f x.value).value, x.events ++ (f x.value).events⟩ := rfl

/-- Where nothing is done, everything that is done has any property. -/
theorem all_pure (a : α) : (Pure.pure a : Traced α).All P := by
  intro e he
  exact absurd he List.not_mem_nil

/-- One thing done. -/
theorem all_note {e : Event} : (note e).All P ↔ P e := by
  simp [All]

/-- Everything done in two steps is done in the first or in the second. -/
theorem all_bind {x : Traced α} {f : α → Traced β} :
    (x >>= f).All P ↔ x.All P ∧ (f x.value).All P := by
  simp only [All, events_bind, List.mem_append]
  constructor
  · intro h
    exact ⟨fun e he => h e (Or.inl he), fun e he => h e (Or.inr he)⟩
  · rintro ⟨hx, hf⟩ e (he | he)
    · exact hx e he
    · exact hf e he

/-- A property of all events gives every weaker one. -/
theorem All.mono {x : Traced α} (hx : x.All P) (h : ∀ e, P e → Q e) : x.All Q :=
  fun e he => h e (hx e he)

end Traced

namespace Fixture

/-- The file that is found is the first one that the path leads to. -/
theorem findIn?_eq_some_iff {disk : Disk} {dirs : List String} {path file : String} :
    findIn? disk dirs path = some file ↔ ∃ before dir after, dirs = before ++ dir :: after ∧
      file = Path.join dir path ∧ disk.isFile file = true ∧
      ∀ other ∈ before, disk.isFile (Path.join other path) = false := by
  unfold findIn?
  rw [List.find?_map, Option.map_eq_some_iff]
  constructor
  · rintro ⟨dir, hfind, rfl⟩
    obtain ⟨hfile, before, after, hdirs, hbefore⟩ := List.find?_eq_some_iff_append.mp hfind
    exact ⟨before, dir, after, hdirs, rfl, hfile, fun other ho => by simpa using hbefore other ho⟩
  · rintro ⟨before, dir, after, hdirs, rfl, hfile, hbefore⟩
    refine ⟨dir, List.find?_eq_some_iff_append.mpr ⟨hfile, before, after, hdirs, ?_⟩, rfl⟩
    intro other ho
    simpa using hbefore other ho

/-- The file that is found is a file, and it lies below one of the directories. -/
theorem findIn?_eq_some {disk : Disk} {dirs : List String} {path file : String}
    (h : findIn? disk dirs path = some file) :
    ∃ dir ∈ dirs, file = Path.join dir path ∧ disk.isFile file = true := by
  obtain ⟨before, dir, after, rfl, hfile, hexists, -⟩ := findIn?_eq_some_iff.mp h
  exact ⟨dir, List.mem_append_right before List.mem_cons_self, hfile, hexists⟩

end Fixture

namespace Site

open Traced

variable (site : Site)

/-! ## Looking for data -/

/-- The data file that a name from a request stands for: of the roots of data, the first one below
which the cleaned name is a file. -/
def dataFile? (name : String) : Option String :=
  (Fixture.safeRelative? name).bind (Fixture.findIn? site.disk site.fixtures.dataPaths)

/-- What is done to look for a name below the roots of data. -/
inductive Looks (name : String) : Event → Prop
  /-- The cleaned name is tested below a root. -/
  | tested {safe dir : String} (hs : Fixture.safeRelative? name = some safe)
      (hd : dir ∈ site.fixtures.dataPaths) : Looks name (.tested (Path.join dir safe))

/-- A test says whether the path leads to a file. -/
theorem testFile_value (path : String) : (site.testFile path).value = site.disk.isFile path := rfl

/-- Trying the directories one by one finds the first file. -/
theorem findFile_value (path : String) (dirs : List String) :
    (site.findFile path dirs).value = Fixture.findIn? site.disk dirs path := by
  induction dirs with
  | nil => rfl
  | cons dir rest ih =>
    unfold findFile
    rw [value_bind, testFile_value]
    unfold Fixture.findIn?
    rw [List.map_cons, List.find?_cons]
    cases hf : site.disk.isFile (Path.join dir path) with
    | true => rfl
    | false => exact ih

/-- All that is done to find a file is to test the path below each directory. -/
theorem findFile_all {P : Event → Prop} {path : String} {dirs : List String}
    (h : ∀ dir ∈ dirs, P (.tested (Path.join dir path))) : (site.findFile path dirs).All P := by
  induction dirs with
  | nil => exact all_pure _
  | cons dir rest ih =>
    have hhead := h dir List.mem_cons_self
    have htail := ih fun other hother => h other (List.mem_cons_of_mem dir hother)
    unfold findFile
    refine all_bind.mpr ⟨all_bind.mpr ⟨all_note.mpr hhead, all_pure _⟩, ?_⟩
    split
    · exact all_pure _
    · exact htail

/-- Looking for a name finds its data file. -/
theorem findData_value (name : String) : (site.findData name).value = site.dataFile? name := by
  unfold findData dataFile?
  cases hs : Fixture.safeRelative? name with
  | none => rfl
  | some safe => exact findFile_value site safe site.fixtures.dataPaths

/-- All that is done to look for a name is to test it, cleaned, below the roots of data. -/
theorem findData_all (name : String) : (site.findData name).All (site.Looks name) := by
  unfold findData
  cases hs : Fixture.safeRelative? name with
  | none => exact all_pure _
  | some safe => exact findFile_all site fun dir hd => .tested hs hd

/-- A data file is a file, and lies below a root of data. -/
theorem dataFile?_eq_some {name file : String} (h : site.dataFile? name = some file) :
    ∃ safe, Fixture.safeRelative? name = some safe ∧
      ∃ dir ∈ site.fixtures.dataPaths,
        file = Path.join dir safe ∧ site.disk.isFile file = true := by
  obtain ⟨safe, hs, hfind⟩ := Option.bind_eq_some_iff.mp h
  exact ⟨safe, hs, Fixture.findIn?_eq_some hfind⟩

/-! ## The preview -/

/-- The preview shows a page: the decoded path names it, and its cleaned template is a file below
the root of the templates. -/
def Previews (r : Request) (page : PageRef) : Prop :=
  PageRef.ofPath? r.target.decodedPath = some page ∧
    ∃ template, Fixture.safeRelative? page.templateName = some template ∧
      site.disk.isFile (Path.join site.fixtures.viewPath template) = true

/-- What is done for the preview of a page. -/
inductive PreviewDoes (r : Request) (page : PageRef) : Event → Prop
  /-- The cleaned template is tested below the root of the templates. -/
  | template {template : String} (h : Fixture.safeRelative? page.templateName = some template) :
      PreviewDoes r page (.tested (Path.join site.fixtures.viewPath template))
  /-- The data is looked for. -/
  | dataLooks {e : Event} (h : site.Looks page.dataName e) : PreviewDoes r page e
  /-- The data is read. -/
  | dataOpened {file : String} (h : site.dataFile? page.dataName = some file) :
      PreviewDoes r page (.opened file)
  /-- The data script is looked for. -/
  | scriptLooks {e : Event} (h : site.Looks page.scriptName e) : PreviewDoes r page e
  /-- The data script is run, with the request that came to the preview. -/
  | augmented {file : String} (h : site.dataFile? page.scriptName = some file) :
      PreviewDoes r page (.augmented file r)
  /-- The template is rendered. -/
  | rendered (h : site.Previews r page) : PreviewDoes r page (.rendered page.templateName)

/-- All that is done for the data of a page is among what a preview may do. -/
theorem pageFixture_all (r : Request) (page : PageRef) :
    (site.pageFixture page).All (site.PreviewDoes r page) := by
  unfold pageFixture
  refine all_bind.mpr ⟨(findData_all site page.dataName).mono fun e => .dataLooks, ?_⟩
  rw [findData_value]
  cases hf : site.dataFile? page.dataName with
  | none => exact all_pure _
  | some file => exact all_bind.mpr ⟨all_note.mpr (.dataOpened hf), all_pure _⟩

/-- All that is done for the data of a page and its data script is among what a preview may do. -/
theorem pageData_all (r : Request) (page : PageRef) :
    (site.pageData page r).All (site.PreviewDoes r page) := by
  unfold pageData
  refine all_bind.mpr ⟨pageFixture_all site r page, ?_⟩
  split
  · exact all_pure _
  · refine all_bind.mpr ⟨(findData_all site page.scriptName).mono fun e => .scriptLooks, ?_⟩
    rw [findData_value]
    cases hf : site.dataFile? page.scriptName with
    | none => exact all_pure _
    | some file =>
      refine all_bind.mpr ⟨all_note.mpr (.augmented hf), ?_⟩
      split <;> exact all_pure _

/-- A page that is previewed is rendered, which is among what a preview may do. -/
theorem renderPage_all {r : Request} {page : PageRef} (h : site.Previews r page) (data : Json) :
    (site.renderPage page data).All (site.PreviewDoes r page) := by
  unfold renderPage
  refine all_bind.mpr ⟨all_note.mpr (.rendered h), ?_⟩
  split <;> exact all_pure _

/-- All that may be done for the preview of the page that the decoded path names. -/
theorem preview_all_page {r : Request} {page : PageRef}
    (hpage : PageRef.ofPath? r.target.decodedPath = some page) :
    (site.preview r).All (site.PreviewDoes r page) := by
  unfold preview
  rw [hpage]
  dsimp only
  cases htemplate : Fixture.safeRelative? page.templateName with
  | none => exact all_pure _
  | some template =>
    refine all_bind.mpr ⟨all_bind.mpr ⟨all_note.mpr (.template htemplate), all_pure _⟩, ?_⟩
    rw [testFile_value]
    by_cases hfile : site.disk.isFile (Path.join site.fixtures.viewPath template) = true
    · rw [if_pos hfile]
      refine all_bind.mpr ⟨pageData_all site r page, all_bind.mpr ⟨?_, all_pure _⟩⟩
      exact renderPage_all site ⟨hpage, template, htemplate, hfile⟩ _
    · rw [if_neg hfile]
      exact all_pure _

/-- The preview does nothing for a path that names no page. -/
theorem preview_all (r : Request) :
    (site.preview r).All fun e =>
      ∃ page, PageRef.ofPath? r.target.decodedPath = some page ∧ site.PreviewDoes r page e := by
  cases hpage : PageRef.ofPath? r.target.decodedPath with
  | none =>
    unfold preview
    rw [hpage]
    exact all_pure _
  | some page => exact (preview_all_page site hpage).mono fun e he => ⟨page, rfl, he⟩

/-- The preview of a page that it shows: a test, then the data, then the page. -/
theorem preview_eq {r : Request} {page : PageRef} (h : site.Previews r page) :
    ∃ path, site.preview r = (do
      note (.tested path)
      let data ← site.pageData page r
      return some (← site.renderPage page data)) := by
  obtain ⟨hpage, template, htemplate, hfile⟩ := h
  refine ⟨Path.join site.fixtures.viewPath template, ?_⟩
  unfold preview
  rw [hpage]
  dsimp only
  rw [htemplate]
  dsimp only
  rw [Traced.bind_eq, testFile_value, if_pos hfile]
  rfl

/-- The preview lets pass what is no page that it shows, after a test at most. -/
theorem preview_passes {r : Request} (h : ∀ page, ¬site.Previews r page) :
    ∃ events, site.preview r = ⟨none, events⟩ ∧ ∀ e ∈ events, ∃ path, e = .tested path := by
  unfold preview
  cases hpage : PageRef.ofPath? r.target.decodedPath with
  | none => exact ⟨[], rfl, fun e he => absurd he List.not_mem_nil⟩
  | some page =>
    dsimp only
    cases htemplate : Fixture.safeRelative? page.templateName with
    | none => exact ⟨[], rfl, fun e he => absurd he List.not_mem_nil⟩
    | some template =>
      refine ⟨[.tested (Path.join site.fixtures.viewPath template)], ?_, ?_⟩
      · dsimp only
        rw [Traced.bind_eq, testFile_value,
          if_neg fun hfile => h page ⟨hpage, template, htemplate, hfile⟩]
        rfl
      · intro e he
        exact ⟨_, List.mem_singleton.mp he⟩

/-- The answer of the preview to a request for a page that it shows. -/
theorem preview_value {r : Request} {page : PageRef} (h : site.Previews r page) :
    (site.preview r).value =
      some (site.renderPage page (site.pageData page r).value).value := by
  obtain ⟨path, heq⟩ := preview_eq site h
  rw [heq]
  rfl

/-! ## The fixtures -/

/-- The decoded path asks for a fixture, which is this file below a root of data. -/
def FixtureFile (r : Request) (fixture : FixtureRef) (file : String) : Prop :=
  FixtureRef.ofPath? r.target.decodedPath = some fixture ∧ site.dataFile? fixture.path = some file

/-- What is done for a fixture. -/
inductive ScriptDoes (r : Request) : Event → Prop
  /-- The fixture is looked for. -/
  | looks {fixture : FixtureRef} (hf : FixtureRef.ofPath? r.target.decodedPath = some fixture)
      {e : Event} (h : site.Looks fixture.path e) : ScriptDoes r e
  /-- Data is read. -/
  | opened {fixture : FixtureRef} {file : String} (hf : site.FixtureFile r fixture file)
      (hk : fixture.kind = .json) : ScriptDoes r (.opened file)
  /-- A script is run, with the request that came to the fixtures. -/
  | scripted {fixture : FixtureRef} {file : String} (hf : site.FixtureFile r fixture file)
      (hk : fixture.kind = .script) : ScriptDoes r (.scripted file r)

/-- All that is done to send a fixture is to open its file. -/
theorem sendFixture_all {P : Event → Prop} {file : String} (h : P (.opened file)) :
    (site.sendFixture file).All P := by
  unfold sendFixture
  refine all_bind.mpr ⟨all_note.mpr h, ?_⟩
  split <;> exact all_pure _

/-- What is made of a fixture that is found. -/
def answerFixture (r : Request) (fixture : FixtureRef) (file : String) :
    Traced (Option Response) :=
  match fixture.kind, site.hooks.script with
  | .json, _ => do return some (← site.sendFixture file)
  | .script, none => return none
  | .script, some handler => do
    note (.scripted file r)
    return handler file r

/-- A fixture that exists is looked for and then answered. -/
theorem script_eq {r : Request} {fixture : FixtureRef} {file : String}
    (h : site.FixtureFile r fixture file) :
    site.script r =
      (site.findData fixture.path >>= fun _ => site.answerFixture r fixture file) := by
  unfold script
  rw [h.1]
  dsimp only
  rw [Traced.bind_eq, Traced.bind_eq, findData_value, h.2]
  rfl

/-- What is no fixture, or no file, is let pass after some tests. -/
theorem script_passes {r : Request} (h : ∀ fixture file, ¬site.FixtureFile r fixture file) :
    ∃ events, site.script r = ⟨none, events⟩ ∧ ∀ e ∈ events, ∃ path, e = .tested path := by
  unfold script
  cases hfixture : FixtureRef.ofPath? r.target.decodedPath with
  | none => exact ⟨[], rfl, fun e he => absurd he List.not_mem_nil⟩
  | some fixture =>
    refine ⟨(site.findData fixture.path).events, ?_, ?_⟩
    · dsimp only
      rw [Traced.bind_eq, findData_value]
      cases hfile : site.dataFile? fixture.path with
      | none =>
        dsimp only
        rw [events_pure, List.append_nil]
        rfl
      | some file => exact absurd ⟨hfixture, hfile⟩ (h fixture file)
    · intro e he
      obtain ⟨hs, hd⟩ := findData_all site fixture.path e he
      exact ⟨_, rfl⟩

/-- All that may be done for a fixture. -/
theorem script_all (r : Request) : (site.script r).All (site.ScriptDoes r) := by
  cases hfixture : FixtureRef.ofPath? r.target.decodedPath with
  | none =>
    unfold script
    rw [hfixture]
    exact all_pure _
  | some fixture =>
    have hlooks := (findData_all site fixture.path).mono fun e => ScriptDoes.looks hfixture
    cases hfile : site.dataFile? fixture.path with
    | none =>
      unfold script
      rw [hfixture]
      refine all_bind.mpr ⟨hlooks, ?_⟩
      rw [findData_value, hfile]
      exact all_pure _
    | some file =>
      rw [script_eq site ⟨hfixture, hfile⟩]
      refine all_bind.mpr ⟨hlooks, ?_⟩
      unfold answerFixture
      cases hkind : fixture.kind with
      | json =>
        exact all_bind.mpr
          ⟨sendFixture_all site (.opened ⟨hfixture, hfile⟩ hkind), all_pure _⟩
      | script =>
        cases site.hooks.script with
        | none => exact all_pure _
        | some handler =>
          exact all_bind.mpr ⟨all_note.mpr (.scripted ⟨hfixture, hfile⟩ hkind), all_pure _⟩

/-- A data file is sent as it is. -/
theorem script_value_json {r : Request} {fixture : FixtureRef} {file : String}
    (h : site.FixtureFile r fixture file) (hk : fixture.kind = .json) :
    (site.script r).value = some (site.sendFixture file).value := by
  rw [script_eq site h, value_bind]
  unfold answerFixture
  rw [hk]
  rfl

/-- A script answers as the application runs it, if it runs scripts at all. -/
theorem script_value_script {r : Request} {fixture : FixtureRef} {file : String}
    (h : site.FixtureFile r fixture file) (hk : fixture.kind = .script) :
    (site.script r).value = site.hooks.script.bind fun handler => handler file r := by
  rw [script_eq site h, value_bind]
  unfold answerFixture
  rw [hk]
  cases site.hooks.script with
  | none => rfl
  | some handler => rfl

/-! ## One stage after the other -/

/-- What holds of all that the stages do, one by one, holds of all that they do together. -/
theorem serve_all {P : Event → Prop} (r : Request) (hp : (site.preview r).All P)
    (hs : (site.script r).All P) (hd : P (.delegated r)) : (site.serve r).All P := by
  unfold serve
  refine all_bind.mpr ⟨hp, ?_⟩
  split
  · exact all_pure _
  · refine all_bind.mpr ⟨hs, ?_⟩
    split
    · exact all_pure _
    · exact all_bind.mpr ⟨all_note.mpr hd, all_pure _⟩

/-- The preview's answer is the answer, and nothing else is done. -/
theorem serve_of_preview {r : Request} {x : Response} (h : (site.preview r).value = some x) :
    site.serve r = ⟨x, (site.preview r).events⟩ := by
  unfold serve
  rw [Traced.bind_eq, h]
  simp

/-- What the preview lets pass, the fixtures may answer. -/
theorem serve_of_script {r : Request} {x : Response} (hp : (site.preview r).value = none)
    (h : (site.script r).value = some x) :
    site.serve r = ⟨x, (site.preview r).events ++ (site.script r).events⟩ := by
  unfold serve
  rw [Traced.bind_eq, hp]
  dsimp only
  rw [Traced.bind_eq, h]
  simp

/-- What both let pass, the application answers. -/
theorem serve_of_neither {r : Request} (hp : (site.preview r).value = none)
    (h : (site.script r).value = none) :
    site.serve r = ⟨shapeInner r.method (site.hooks.inner r),
      (site.preview r).events ++ ((site.script r).events ++ [.delegated r])⟩ := by
  unfold serve
  rw [Traced.bind_eq, hp]
  dsimp only
  rw [Traced.bind_eq, h]
  rfl

end Site

end PagePreview
