import PagePreview.Proofs.FileNames
import PagePreview.Proofs.PageNames
import PagePreview.Proofs.StageEvents

/-!
# The files of a page

The template, the data and the data script of a page are looked for by three names, and each name is
cleaned by itself. They belong together: all three are refused, or they lead by the same steps from
the namespace to the same base name. So what the preview does without a cleaned name of the data or
of the script it never does, and it touches no file of another page.
-/

namespace PagePreview

/-- Cleaning keeps plain names at both ends of a path; steps upwards may stand only between. -/
theorem Fixture.safeRelative?_of_pieces {path name : String} {above between : List String}
    (h : Path.pieces path = above ++ between ++ [name])
    (habove : ∀ piece ∈ above, Path.PlainName piece) (hname : Path.PlainName name) :
    safeRelative? path = if ".." ∈ between then none
      else some (String.intercalate "/"
        (above ++ (between.filter fun piece => piece != "" && piece != ".") ++ [name])) := by
  have hkeep : ∀ piece, Path.PlainName piece → (piece != "" && piece != ".") = true := by
    intro piece hp
    simpa using ⟨hp.ne_empty, hp.ne_dot⟩
  have hfilter : (Path.pieces path).filter (fun piece => piece != "" && piece != ".") =
      above ++ (between.filter fun piece => piece != "" && piece != ".") ++ [name] := by
    have hends : ∀ piece ∈ [name], (piece != "" && piece != ".") = true := by
      simpa using hkeep name hname
    rw [h, List.filter_append, List.filter_append, List.filter_eq_self.mpr hends,
      List.filter_eq_self.mpr fun piece hp => hkeep piece (habove piece hp)]
  have hup : ".." ∈ above ++ (between.filter fun piece => piece != "" && piece != ".") ++ [name] ↔
      ".." ∈ between := by
    have habove' : ".." ∉ above := fun hmem => (habove _ hmem).ne_dots rfl
    have hname' : ".." ≠ name := hname.ne_dots.symm
    simp [List.mem_filter, habove', hname']
  unfold safeRelative? plainNames?
  dsimp only
  rw [hfilter]
  by_cases hdots : ".." ∈ between
  · rw [if_pos hdots, if_pos (Or.inr (List.contains_iff_mem.mpr (hup.mpr hdots)))]
    rfl
  · rw [if_neg hdots, if_neg]
    · rfl
    · rintro (hempty | hmem)
      · simp at hempty
      · exact hdots (hup.mp (List.contains_iff_mem.mp hmem))

namespace PageRef

/-- A step upwards stands before the last name of a page. -/
def LeadsUp (page : PageRef) : Prop := ".." ∈ (Path.pieces page.page).dropLast

instance (page : PageRef) : Decidable page.LeadsUp :=
  inferInstanceAs (Decidable (".." ∈ (Path.pieces page.page).dropLast))

/-- Where a file stands: below directories, under a base name with an ending. -/
def place (directories : List String) (base ending : String) : String :=
  String.intercalate "/" (directories ++ [base ++ ending])

/-- The files of a page stand under one base name, behind the same plain steps: the template below
the namespace, the data and the data script below its directory `page`. -/
structure Located (page : PageRef) (steps : List String) (base : String) : Prop where
  /-- The namespace is a plain name. -/
  space : Path.PlainName page.namespaceName
  /-- The steps are plain names. -/
  plain : ∀ step ∈ steps, Path.PlainName step
  /-- The base name is one name; it may be empty. -/
  no_slash : '/' ∉ base.toList
  /-- Where the template is looked for. -/
  template : Fixture.safeRelative? page.templateName =
    some (place (page.namespaceName :: steps) base ".tpl")
  /-- Where the data is looked for. -/
  data : Fixture.safeRelative? page.dataName =
    some (place (page.namespaceName :: "page" :: steps) base ".json")
  /-- Where the data script is looked for. -/
  script : Fixture.safeRelative? page.scriptName =
    some (place (page.namespaceName :: "page" :: steps) base ".js")

/-- The name of no file of a page can be cleaned. -/
structure Refused (page : PageRef) : Prop where
  /-- The template is not looked for. -/
  template : Fixture.safeRelative? page.templateName = none
  /-- Nor is the data. -/
  data : Fixture.safeRelative? page.dataName = none
  /-- Nor is the data script. -/
  script : Fixture.safeRelative? page.scriptName = none

/-- Two pages have a file in common. -/
def Share (page page' : PageRef) : Prop :=
  Fixture.safeRelative? page.templateName = Fixture.safeRelative? page'.templateName ∨
  Fixture.safeRelative? page.dataName = Fixture.safeRelative? page'.dataName ∨
  Fixture.safeRelative? page.scriptName = Fixture.safeRelative? page'.scriptName

/-! ## Cleaning the three names -/

/-- The namespace of a page is a plain name. -/
theorem Written.plainName_namespace {path namespaceName keyword name : String}
    (h : Written path namespaceName keyword name) : Path.PlainName namespaceName := by
  have hdot : '.' ∉ namespaceName.toList := by
    intro hmem
    exact absurd (isNamespaceChar_iff.mpr (h.plain '.' hmem)) (by decide)
  refine ⟨h.ne_empty, ?_, ?_, h.slash_notMem_namespace⟩
  · rintro rfl
    exact hdot (by decide)
  · rintro rfl
    exact hdot (by decide)

/-- The template of a page stands below its namespace. -/
theorem templateName_eq (page : PageRef) : page.templateName =
    String.intercalate "/" [page.namespaceName] ++ "/" ++ (page.page ++ ".tpl") := by
  rw [← String.toList_inj]
  simp [templateName]

/-- The data of a page stands below the word `page` in its namespace. -/
theorem dataName_eq (page : PageRef) : page.dataName =
    String.intercalate "/" [page.namespaceName, "page"] ++ "/" ++ (page.page ++ ".json") := by
  rw [← String.toList_inj]
  simp [dataName]

/-- So does its data script. -/
theorem scriptName_eq (page : PageRef) : page.scriptName =
    String.intercalate "/" [page.namespaceName, "page"] ++ "/" ++ (page.page ++ ".js") := by
  rw [← String.toList_inj]
  simp [scriptName]

/-- A name of a page below directories is cleaned by cleaning the steps between them and the base
name. -/
theorem safeRelative?_below {page : PageRef} {base : String} (hbase : '/' ∉ base.toList)
    (hpieces : ∀ ending, '/' ∉ ending.toList →
      Path.pieces (page.page ++ ending) = (Path.pieces page.page).dropLast ++ [base ++ ending])
    {directories : List String} (hne : directories ≠ [])
    (hplain : ∀ directory ∈ directories, Path.PlainName directory) (ending : String)
    (hending : '/' ∉ ending.toList) (hlength : 3 ≤ ending.toList.length) :
    Fixture.safeRelative? (String.intercalate "/" directories ++ "/" ++ (page.page ++ ending)) =
      if page.LeadsUp then none
      else some (place (directories ++ (Path.pieces page.page).dropLast.filter
        fun piece => piece != "" && piece != ".") base ending) := by
  have hname : Path.PlainName (base ++ ending) := by
    apply Path.plainName_of_length
    · rw [String.toList_append, List.length_append]
      omega
    · simpa using ⟨hbase, hending⟩
  have hcut := Path.pieces_intercalate hne fun directory hd => (hplain directory hd).no_slash
  apply Fixture.safeRelative?_of_pieces _ hplain hname
  rw [Path.pieces_append_slash, hcut, hpieces ending hending, List.append_assoc]

/-- The three names of a page are cleaned alike. -/
theorem refused_or_located {path : String} {page : PageRef} (h : ofPath? path = some page) :
    (page.LeadsUp ∧ page.Refused) ∨ (¬page.LeadsUp ∧ ∃ steps base, page.Located steps base) := by
  obtain ⟨keyword, name, hwritten⟩ := exists_written_of_ofPath? h
  have hspace := hwritten.plainName_namespace
  have hinside : Path.PlainName "page" := Path.plainName_of_length (by decide) (by decide)
  obtain ⟨base, hbase, hpieces⟩ := Path.exists_base page.page
  have htemplate := safeRelative?_below hbase hpieces (List.cons_ne_nil page.namespaceName [])
    (by simpa using hspace) ".tpl" (by decide) (by decide)
  have hdata := safeRelative?_below hbase hpieces (List.cons_ne_nil page.namespaceName ["page"])
    (by simpa using ⟨hspace, hinside⟩) ".json" (by decide) (by decide)
  have hscript := safeRelative?_below hbase hpieces (List.cons_ne_nil page.namespaceName ["page"])
    (by simpa using ⟨hspace, hinside⟩) ".js" (by decide) (by decide)
  rw [← templateName_eq] at htemplate
  rw [← dataName_eq] at hdata
  rw [← scriptName_eq] at hscript
  by_cases hup : page.LeadsUp
  · rw [if_pos hup] at htemplate hdata hscript
    exact .inl ⟨hup, htemplate, hdata, hscript⟩
  · rw [if_neg hup] at htemplate hdata hscript
    refine .inr ⟨hup, _, base, hspace, ?_, hbase, htemplate, hdata, hscript⟩
    intro step hstep
    obtain ⟨hmem, hkept⟩ := List.mem_filter.mp hstep
    rw [Bool.and_eq_true, bne_iff_ne, bne_iff_ne] at hkept
    refine ⟨hkept.1, hkept.2, ?_, Path.no_slash_of_mem_pieces (List.dropLast_subset _ hmem)⟩
    rintro rfl
    exact hup hmem

/-! ## Files of different pages -/

/-- The place of a file tells the directories and the base name. -/
theorem place_injective {directories directories' : List String} {base base' ending : String}
    (hplain : ∀ directory ∈ directories, Path.PlainName directory)
    (hplain' : ∀ directory ∈ directories', Path.PlainName directory)
    (hbase : '/' ∉ base.toList) (hbase' : '/' ∉ base'.toList) (hending : '/' ∉ ending.toList)
    (h : place directories base ending = place directories' base' ending) :
    directories = directories' ∧ base = base' := by
  have hpieces : ∀ {names : List String} {last : String},
      (∀ directory ∈ names, Path.PlainName directory) → '/' ∉ last.toList →
      Path.pieces (place names last ending) = names ++ [last ++ ending] := by
    intro names last hnames hlast
    apply Path.pieces_intercalate (by simp)
    intro name hname
    rcases List.mem_append.mp hname with hmem | hmem
    · exact (hnames name hmem).no_slash
    · rw [List.mem_singleton.mp hmem]
      simpa using ⟨hlast, hending⟩
  have hsame := congrArg Path.pieces h
  rw [hpieces hplain hbase, hpieces hplain' hbase'] at hsame
  obtain ⟨hdirectories, hlast⟩ := List.append_inj' hsame rfl
  have hchars := congrArg String.toList (List.singleton_inj.mp hlast)
  rw [String.toList_append, String.toList_append] at hchars
  exact ⟨hdirectories, String.toList_inj.mp (List.append_cancel_right hchars)⟩

/-- Pages with a file in common have the same namespace, steps and base name. -/
theorem Located.unique {page page' : PageRef} {steps steps' : List String} {base base' : String}
    (h : page.Located steps base) (h' : page'.Located steps' base') (hshare : page.Share page') :
    page.namespaceName = page'.namespaceName ∧ steps = steps' ∧ base = base' := by
  have hinside : Path.PlainName "page" := Path.plainName_of_length (by decide) (by decide)
  have hplain := List.forall_mem_cons.mpr ⟨h.space, h.plain⟩
  have hplain' := List.forall_mem_cons.mpr ⟨h'.space, h'.plain⟩
  have hdata := List.forall_mem_cons.mpr ⟨h.space, List.forall_mem_cons.mpr ⟨hinside, h.plain⟩⟩
  have hdata' := List.forall_mem_cons.mpr ⟨h'.space, List.forall_mem_cons.mpr ⟨hinside, h'.plain⟩⟩
  rcases hshare with hsame | hsame | hsame
  · rw [h.template, h'.template, Option.some_inj] at hsame
    obtain ⟨hnames, hbase⟩ :=
      place_injective hplain hplain' h.no_slash h'.no_slash (by decide) hsame
    obtain ⟨hspace, hsteps⟩ := List.cons.inj hnames
    exact ⟨hspace, hsteps, hbase⟩
  · rw [h.data, h'.data, Option.some_inj] at hsame
    obtain ⟨hnames, hbase⟩ := place_injective hdata hdata' h.no_slash h'.no_slash (by decide) hsame
    obtain ⟨hspace, hsteps⟩ := List.cons.inj hnames
    exact ⟨hspace, (List.cons.inj hsteps).2, hbase⟩
  · rw [h.script, h'.script, Option.some_inj] at hsame
    obtain ⟨hnames, hbase⟩ := place_injective hdata hdata' h.no_slash h'.no_slash (by decide) hsame
    obtain ⟨hspace, hsteps⟩ := List.cons.inj hnames
    exact ⟨hspace, (List.cons.inj hsteps).2, hbase⟩

end PageRef

/-! ## The stage -/

namespace Site

open Traced (note)

/-- The data at a place; without a file there it is an empty object. -/
def dataAt (site : Site) (data : String) : Traced Json := do
  match ← site.findFile data site.fixtures.dataPaths with
  | some file => site.loadJson file
  | none => return Json.empty

/-- The data at a place with what the data script at another adds. -/
def pageDataAt (site : Site) (data script : String) (r : Request) : Traced Json := do
  let value ← site.dataAt data
  match site.hooks.pageData with
  | none => return value
  | some handler =>
    match ← site.findFile script site.fixtures.dataPaths with
    | none => return value
    | some file =>
      note (.augmented file r)
      match handler file r value with
      | some locals => return Json.mergeLocals value locals
      | none => return value

/-- The preview of a page whose three files are looked for at these places. -/
def previewAt (site : Site) (template data script : String) (page : PageRef) (r : Request) :
    Traced (Option Response) := do
  if ← site.testFile (Path.join site.fixtures.viewPath template) then
    let value ← site.pageDataAt data script r
    return some (← site.renderPage page value)
  else return none

/-- What is done for a page whose files stand behind these steps under this base name. -/
inductive TouchesOwn (site : Site) (r : Request) (page : PageRef) (steps : List String)
    (base : String) : Event → Prop
  /-- Its template is tested. -/
  | template : TouchesOwn site r page steps base (.tested (Path.join site.fixtures.viewPath
      (PageRef.place (page.namespaceName :: steps) base ".tpl")))
  /-- Its data is tested below a root. -/
  | dataTested {dir : String} (hd : dir ∈ site.fixtures.dataPaths) :
      TouchesOwn site r page steps base (.tested (Path.join dir
        (PageRef.place (page.namespaceName :: "page" :: steps) base ".json")))
  /-- Its data is read. -/
  | dataOpened {dir : String} (hd : dir ∈ site.fixtures.dataPaths) :
      TouchesOwn site r page steps base (.opened (Path.join dir
        (PageRef.place (page.namespaceName :: "page" :: steps) base ".json")))
  /-- Its data script is tested below a root. -/
  | scriptTested {dir : String} (hd : dir ∈ site.fixtures.dataPaths) :
      TouchesOwn site r page steps base (.tested (Path.join dir
        (PageRef.place (page.namespaceName :: "page" :: steps) base ".js")))
  /-- Its data script is run, with the request that came. -/
  | augmented {dir : String} (hd : dir ∈ site.fixtures.dataPaths) :
      TouchesOwn site r page steps base (.augmented (Path.join dir
        (PageRef.place (page.namespaceName :: "page" :: steps) base ".js")) r)
  /-- Its template is rendered. -/
  | rendered : TouchesOwn site r page steps base (.rendered page.templateName)

variable (site : Site)

/-- A name that is cleaned is looked up as it is then. -/
theorem findData_eq {name safe : String} (h : Fixture.safeRelative? name = some safe) :
    site.findData name = site.findFile safe site.fixtures.dataPaths := by
  unfold findData
  rw [h]

/-- No fall-back of the preview is needed if all three names can be cleaned. -/
theorem preview_eq_previewAt {r : Request} {page : PageRef} {template data script : String}
    (hpage : PageRef.ofPath? r.target.decodedPath = some page)
    (htemplate : Fixture.safeRelative? page.templateName = some template)
    (hdata : Fixture.safeRelative? page.dataName = some data)
    (hscript : Fixture.safeRelative? page.scriptName = some script) :
    site.preview r = site.previewAt template data script page r := by
  have hvalue : site.pageData page r = site.pageDataAt data script r := by
    unfold pageData pageFixture
    rw [findData_eq site hdata, findData_eq site hscript]
    rfl
  unfold preview
  rw [hpage]
  dsimp only
  rw [htemplate]
  dsimp only
  rw [hvalue]
  rfl

/-- Where the template is refused, nothing is done. -/
theorem preview_eq_none {r : Request} {page : PageRef}
    (hpage : PageRef.ofPath? r.target.decodedPath = some page)
    (htemplate : Fixture.safeRelative? page.templateName = none) :
    site.preview r = ⟨none, []⟩ := by
  unfold preview
  rw [hpage]
  dsimp only
  rw [htemplate]
  rfl

/-- All that the preview does concerns the page's own files. -/
theorem preview_touches_own {r : Request} {page : PageRef} {steps : List String} {base : String}
    (hpage : PageRef.ofPath? r.target.decodedPath = some page) (h : page.Located steps base) :
    (site.preview r).All (site.TouchesOwn r page steps base) := by
  have hfile : ∀ {name safe file : String}, Fixture.safeRelative? name = some safe →
      site.dataFile? name = some file →
        ∃ dir ∈ site.fixtures.dataPaths, file = Path.join dir safe := by
    intro name safe file hsafe hdata
    obtain ⟨safe', hsafe', dir, hdir, hjoin, -⟩ := dataFile?_eq_some site hdata
    rw [hsafe, Option.some_inj] at hsafe'
    exact ⟨dir, hdir, by rw [hjoin, hsafe']⟩
  refine (preview_all_page site hpage).mono fun e hdoes => ?_
  cases hdoes with
  | template ht =>
    rw [h.template, Option.some_inj] at ht
    rw [← ht]
    exact .template
  | dataLooks hl =>
    obtain ⟨hs, hd⟩ := hl
    rw [h.data, Option.some_inj] at hs
    rw [← hs]
    exact .dataTested hd
  | dataOpened hf =>
    obtain ⟨dir, hd, rfl⟩ := hfile h.data hf
    exact .dataOpened hd
  | scriptLooks hl =>
    obtain ⟨hs, hd⟩ := hl
    rw [h.script, Option.some_inj] at hs
    rw [← hs]
    exact .scriptTested hd
  | augmented hf =>
    obtain ⟨dir, hd, rfl⟩ := hfile h.script hf
    exact .augmented hd
  | rendered hp => exact .rendered

end Site

/-- The files of a page belong together. With a step upwards before the last name of the page, all
three are refused and the preview does nothing. Else the template, the data and the script stand
behind the same plain steps under one base name; a page with one of these files has the same
namespace, steps and base name; and the preview is the one that looks for the files at these places,
which needs no fall-back, and touches nothing else. -/
theorem PageRef.files_belong_together {path : String} {page : PageRef}
    (h : ofPath? path = some page) :
    (page.LeadsUp ∧ page.Refused ∧ ∀ (site : Site) (r : Request), r.target.decodedPath = path →
      site.preview r = ⟨none, []⟩) ∨
    (¬page.LeadsUp ∧ ∃ steps base, page.Located steps base ∧
      (∀ page' steps' base', page'.Located steps' base' → page.Share page' →
        page.namespaceName = page'.namespaceName ∧ steps = steps' ∧ base = base') ∧
      ∀ (site : Site) (r : Request), r.target.decodedPath = path →
        site.preview r = site.previewAt (place (page.namespaceName :: steps) base ".tpl")
          (place (page.namespaceName :: "page" :: steps) base ".json")
          (place (page.namespaceName :: "page" :: steps) base ".js") page r ∧
        ∀ e ∈ (site.preview r).events, site.TouchesOwn r page steps base e) := by
  rcases refused_or_located h with ⟨hup, hrefused⟩ | ⟨hup, steps, base, hlocated⟩
  · refine .inl ⟨hup, hrefused, ?_⟩
    rintro site r rfl
    exact site.preview_eq_none h hrefused.template
  · refine .inr ⟨hup, steps, base, hlocated, fun _ _ _ => hlocated.unique, ?_⟩
    rintro site r rfl
    refine ⟨?_, site.preview_touches_own h hlocated⟩
    exact site.preview_eq_previewAt h hlocated.template hlocated.data hlocated.script

/-- A name with steps that say nothing has its files, and a name that goes up has none. -/
theorem PageRef.files_belong_together_steps :
    (∃ steps base, (⟨"shop", "a/./..b//"⟩ : PageRef).Located steps base) ∧
    (⟨"shop", "a/../b"⟩ : PageRef).Refused := by
  have hread : ofPath? "/shop/PAGE/a/./..b//.TPL" = some ⟨"shop", "a/./..b//"⟩ := by decide +kernel
  have hread' : ofPath? "/shop/page/a/../b" = some ⟨"shop", "a/../b"⟩ := by decide +kernel
  constructor
  · rcases files_belong_together hread with ⟨hup, -⟩ | ⟨-, steps, base, hlocated, -⟩
    · exact absurd hup (by decide +kernel)
    · exact ⟨steps, base, hlocated⟩
  · rcases files_belong_together hread' with ⟨-, hrefused, -⟩ | ⟨hup, -⟩
    · exact hrefused
    · exact absurd (by decide +kernel) hup

end PagePreview
