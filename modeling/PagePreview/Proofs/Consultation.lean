import PagePreview.Proofs.StageEvents

/-!
# What the stages depend on

The events of a run are all that the run depends on: on another site that gives the same answer to
every single thing that was done, the same is done and the same comes out. So a file that was not
touched, or a handler that was not called, has no influence.
-/

namespace PagePreview

namespace Disk

/-- Whether there is a file depends on where the path leads only. -/
theorem isFile_congr {d e : Disk} {path : String} (h : e.lookup path = d.lookup path) :
    e.isFile path = d.isFile path := by
  unfold isFile
  rw [h]

/-- What is read depends on where the path leads only. -/
theorem read_congr {d e : Disk} {path : String} (h : e.lookup path = d.lookup path) :
    e.read path = d.read path := by
  unfold read
  rw [h]

end Disk

/-- The value in a data file depends on what is read from it only. -/
theorem Fixture.loadJson_congr {d e : Disk} {path : String} (h : e.read path = d.read path) :
    loadJson e path = loadJson d path := by
  unfold loadJson Disk.readText
  rw [h]

/-- Two steps come to the same if each does. -/
theorem Traced.bind_congr {α β : Type} {x y : Traced α} {f g : α → Traced β} (hx : y = x)
    (hf : g x.value = f x.value) : (y >>= g) = (x >>= f) := by
  rw [hx, bind_eq, bind_eq, hf]

namespace Site

open Traced

/-- What is done comes to the same on another site. -/
def AgreesOn (a b : Site) : Event → Prop
  | .tested path => b.disk.isFile path = a.disk.isFile path
  | .opened path => b.disk.read path = a.disk.read path
  | .augmented file r => b.hooks.pageData.map (· file r) = a.hooks.pageData.map (· file r)
  | .rendered template => b.hooks.render template = a.hooks.render template
  | .scripted file r => b.hooks.script.map (· file r) = a.hooks.script.map (· file r)
  | .delegated r => b.hooks.inner r = a.hooks.inner r
  | .matched _ => True
  | .forwarded _ _ => True

/-- Two sites with the same roots, of which both or none run scripts of either kind. -/
structure SameShape (a b : Site) : Prop where
  /-- The roots are the same. -/
  fixtures : b.fixtures = a.fixtures
  /-- Both or none run data scripts. -/
  pageData : b.hooks.pageData.isSome = a.hooks.pageData.isSome
  /-- Both or none run scripts. -/
  script : b.hooks.script.isSome = a.hooks.script.isSome

variable {a b : Site}

/-- The search for a file depends on the paths that it tests. -/
theorem findFile_congr {path : String} {dirs : List String}
    (h : (a.findFile path dirs).All (a.AgreesOn b)) :
    b.findFile path dirs = a.findFile path dirs := by
  induction dirs with
  | nil => rfl
  | cons dir rest ih =>
    unfold findFile at h ⊢
    obtain ⟨htest, hrest⟩ := all_bind.mp h
    have hf : b.disk.isFile (Path.join dir path) = a.disk.isFile (Path.join dir path) :=
      htest _ List.mem_cons_self
    apply Traced.bind_congr
    · unfold testFile
      rw [hf]
    · by_cases hfound : (a.testFile (Path.join dir path)).value = true
      · rw [if_pos hfound, if_pos hfound]
      · rw [if_neg hfound] at hrest
        rw [if_neg hfound, if_neg hfound]
        exact ih hrest

variable (hs : a.SameShape b)
include hs

/-- So does the search for a name below the roots of data. -/
theorem findData_congr {name : String} (h : (a.findData name).All (a.AgreesOn b)) :
    b.findData name = a.findData name := by
  unfold findData at h ⊢
  rw [hs.fixtures]
  cases hsafe : Fixture.safeRelative? name with
  | none => rfl
  | some safe =>
    rw [hsafe] at h
    exact findFile_congr h

/-- The data of a page depends on the tests and on the file that is read. -/
theorem pageFixture_congr {page : PageRef} (h : (a.pageFixture page).All (a.AgreesOn b)) :
    b.pageFixture page = a.pageFixture page := by
  unfold pageFixture at h ⊢
  obtain ⟨hfind, hload⟩ := all_bind.mp h
  apply Traced.bind_congr (findData_congr hs hfind)
  cases hfile : (a.findData page.dataName).value with
  | none => rfl
  | some file =>
    rw [hfile] at hload
    have hread : b.disk.read file = a.disk.read file := hload _ List.mem_cons_self
    dsimp only
    unfold loadJson
    rw [Fixture.loadJson_congr hread]

/-- With a data script it depends on what that script answers as well. -/
theorem pageData_congr {page : PageRef} {r : Request}
    (h : (a.pageData page r).All (a.AgreesOn b)) : b.pageData page r = a.pageData page r := by
  unfold pageData at h ⊢
  obtain ⟨hfixture, hscript⟩ := all_bind.mp h
  apply Traced.bind_congr (pageFixture_congr hs hfixture)
  have hsome := hs.pageData
  cases ha : a.hooks.pageData with
  | none =>
    rw [ha, Option.isSome_none, Option.isSome_eq_false_iff, Option.isNone_iff_eq_none] at hsome
    rw [hsome]
  | some handler =>
    rw [ha, Option.isSome_some] at hsome
    obtain ⟨other, hb⟩ := Option.isSome_iff_exists.mp hsome
    rw [hb]
    rw [ha] at hscript
    obtain ⟨hfind, hrun⟩ := all_bind.mp hscript
    apply Traced.bind_congr (findData_congr hs hfind)
    cases hfile : (a.findData page.scriptName).value with
    | none => rfl
    | some file =>
      rw [hfile] at hrun
      have hsame : b.hooks.pageData.map (· file r) = a.hooks.pageData.map (· file r) :=
        hrun _ List.mem_cons_self
      rw [ha, hb, Option.map_some, Option.map_some, Option.some_inj] at hsame
      dsimp only
      rw [hsame]

omit hs in
/-- A rendered page depends on what the renderer answers for its template. -/
theorem renderPage_congr {page : PageRef} {data : Json}
    (h : (a.renderPage page data).All (a.AgreesOn b)) :
    b.renderPage page data = a.renderPage page data := by
  have hsame : b.hooks.render page.templateName = a.hooks.render page.templateName :=
    h _ List.mem_cons_self
  unfold renderPage
  dsimp only
  rw [hsame]

/-- The preview depends on nothing but what it does. -/
theorem preview_congr {r : Request} (h : (a.preview r).All (a.AgreesOn b)) :
    b.preview r = a.preview r := by
  unfold preview at h ⊢
  rw [hs.fixtures]
  cases hpage : PageRef.ofPath? r.target.decodedPath with
  | none => rfl
  | some page =>
    rw [hpage] at h
    dsimp only at h ⊢
    cases htemplate : Fixture.safeRelative? page.templateName with
    | none => rfl
    | some template =>
      rw [htemplate] at h
      obtain ⟨htest, hshow⟩ := all_bind.mp h
      have hf : b.disk.isFile (Path.join a.fixtures.viewPath template) =
          a.disk.isFile (Path.join a.fixtures.viewPath template) := htest _ List.mem_cons_self
      apply Traced.bind_congr
      · unfold testFile
        rw [hf]
      · by_cases hfile : (a.testFile (Path.join a.fixtures.viewPath template)).value = true
        · rw [if_pos hfile] at hshow
          rw [if_pos hfile, if_pos hfile]
          obtain ⟨hdata, hrender⟩ := all_bind.mp hshow
          apply Traced.bind_congr (pageData_congr hs hdata)
          apply Traced.bind_congr (renderPage_congr (all_bind.mp hrender).1)
          rfl
        · rw [if_neg hfile, if_neg hfile]

/-- The fixtures depend on nothing but what they do. -/
theorem script_congr {r : Request} (h : (a.script r).All (a.AgreesOn b)) :
    b.script r = a.script r := by
  unfold script at h ⊢
  cases hfixture : FixtureRef.ofPath? r.target.decodedPath with
  | none => rfl
  | some fixture =>
    rw [hfixture] at h
    obtain ⟨hfind, hanswer⟩ := all_bind.mp h
    apply Traced.bind_congr (findData_congr hs hfind)
    cases hfile : (a.findData fixture.path).value with
    | none => rfl
    | some file =>
      rw [hfile] at hanswer
      dsimp only at hanswer ⊢
      cases hk : fixture.kind with
      | json =>
        rw [hk] at hanswer
        have hread : b.disk.read file = a.disk.read file :=
          (all_bind.mp hanswer).1 _ List.mem_cons_self
        dsimp only
        unfold sendFixture
        rw [hread]
      | script =>
        rw [hk] at hanswer
        have hsome := hs.script
        cases ha : a.hooks.script with
        | none =>
          rw [ha, Option.isSome_none, Option.isSome_eq_false_iff,
            Option.isNone_iff_eq_none] at hsome
          rw [hsome]
        | some handler =>
          rw [ha, Option.isSome_some] at hsome
          obtain ⟨other, hb⟩ := Option.isSome_iff_exists.mp hsome
          rw [ha] at hanswer
          have hsame : b.hooks.script.map (· file r) = a.hooks.script.map (· file r) :=
            hanswer _ List.mem_cons_self
          rw [ha, hb, Option.map_some, Option.map_some, Option.some_inj] at hsame
          rw [hb]
          dsimp only
          rw [hsame]

/-- A run depends on nothing but what it did. -/
theorem serve_congr {r : Request} (h : (a.serve r).All (a.AgreesOn b)) :
    b.serve r = a.serve r := by
  unfold serve at h ⊢
  obtain ⟨hpreview, hrest⟩ := all_bind.mp h
  apply Traced.bind_congr (preview_congr hs hpreview)
  cases hp : (a.preview r).value with
  | some x => rfl
  | none =>
    rw [hp] at hrest
    obtain ⟨hscript, hinner⟩ := all_bind.mp hrest
    apply Traced.bind_congr (script_congr hs hscript)
    cases hx : (a.script r).value with
    | some x => rfl
    | none =>
      rw [hx] at hinner
      have hsame : b.hooks.inner r = a.hooks.inner r := hinner _ List.mem_cons_self
      dsimp only
      unfold delegate
      rw [hsame]

end Site

end PagePreview
