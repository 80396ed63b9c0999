import PagePreview.Proofs.Consultation
import PagePreview.Proofs.PlainPaths

/-!
# The stages stay below their roots

Whatever a request asks for, the stages look only at places that lie below one of the configured
roots, reached by plain names. Two statements say so: every path in the trace of a stage lies
there, and no file, script or template elsewhere has any influence. Links on the disk may still
lead away from such a place.
-/

namespace PagePreview

/-- The path that is looked at, or handed to one who runs scripts. -/
def Event.path? : Event → Option String
  | .tested path => some path
  | .opened path => some path
  | .augmented file _ => some file
  | .scripted file _ => some file
  | .matched _ => none
  | .forwarded _ _ => none
  | .rendered _ => none
  | .delegated _ => none

namespace Site

/-- The directories below which the stages look. -/
def roots (site : Site) : List String := site.fixtures.viewPath :: site.fixtures.dataPaths

/-- A path lies below one of the roots. -/
def Contains (site : Site) (path : String) : Prop := ∃ root ∈ site.roots, Path.Below root path

/-- The paths of an event lie below the roots. -/
def Confines (site : Site) (e : Event) : Prop := ∀ path, e.path? = some path → site.Contains path

/-- A template that the preview may show: its cleaned name is a file below the root of the
templates. -/
def HasTemplate (site : Site) (name : String) : Prop :=
  ∃ template, Fixture.safeRelative? name = some template ∧
    Path.Below site.fixtures.viewPath (Path.join site.fixtures.viewPath template) ∧
    site.disk.isFile (Path.join site.fixtures.viewPath template) = true

section Confinement

variable (site : Site)

/-- A template is below the root of the templates. -/
theorem contains_template {name template : String}
    (h : Fixture.safeRelative? name = some template) :
    site.Contains (Path.join site.fixtures.viewPath template) :=
  ⟨_, List.mem_cons_self, Fixture.below_of_safeRelative? h _⟩

/-- A cleaned name is below the root of data it is looked up under. -/
theorem contains_data {name safe dir : String} (hs : Fixture.safeRelative? name = some safe)
    (hd : dir ∈ site.fixtures.dataPaths) : site.Contains (Path.join dir safe) :=
  ⟨dir, List.mem_cons_of_mem _ hd, Fixture.below_of_safeRelative? hs dir⟩

/-- A data file is below a root of data. -/
theorem contains_dataFile {name file : String} (h : site.dataFile? name = some file) :
    site.Contains file := by
  obtain ⟨safe, hs, dir, hd, rfl, -⟩ := dataFile?_eq_some site h
  exact contains_data site hs hd

/-- Looking for data stays below the roots. -/
theorem Looks.confines {name : String} {e : Event} (h : site.Looks name e) : site.Confines e := by
  intro path hpath
  cases h with
  | tested hs hd =>
    obtain rfl := Option.some.inj hpath
    exact contains_data site hs hd

/-- What a preview may do stays below the roots. -/
theorem PreviewDoes.confines {r : Request} {page : PageRef} {e : Event}
    (h : site.PreviewDoes r page e) : site.Confines e := by
  intro path hpath
  cases h with
  | template ht =>
    obtain rfl := Option.some.inj hpath
    exact contains_template site ht
  | dataLooks hl => exact hl.confines site path hpath
  | dataOpened hf =>
    obtain rfl := Option.some.inj hpath
    exact contains_dataFile site hf
  | scriptLooks hl => exact hl.confines site path hpath
  | augmented hf =>
    obtain rfl := Option.some.inj hpath
    exact contains_dataFile site hf
  | rendered hp => exact absurd hpath (by simp [Event.path?])

/-- What the fixtures may do stays below the roots. -/
theorem ScriptDoes.confines {r : Request} {e : Event} (h : site.ScriptDoes r e) :
    site.Confines e := by
  intro path hpath
  cases h with
  | looks hf hl => exact hl.confines site path hpath
  | opened hf hk =>
    obtain rfl := Option.some.inj hpath
    exact contains_dataFile site hf.2
  | scripted hf hk =>
    obtain rfl := Option.some.inj hpath
    exact contains_dataFile site hf.2

/-- The preview stays below the roots. -/
theorem preview_confined (r : Request) : (site.preview r).All site.Confines := by
  refine (preview_all site r).mono ?_
  rintro e ⟨page, -, hdoes⟩
  exact hdoes.confines site

/-- The fixtures stay below the roots. -/
theorem script_confined (r : Request) : (site.script r).All site.Confines :=
  (script_all site r).mono fun _ hdoes => hdoes.confines site

/-- Only templates that are files below the root of the templates are rendered. -/
theorem hasTemplate_of_rendered {r : Request} {name : String}
    (h : .rendered name ∈ (site.preview r).events) : site.HasTemplate name := by
  obtain ⟨page, -, hdoes⟩ := preview_all site r _ h
  cases hdoes with
  | dataLooks hl => cases hl
  | scriptLooks hl => cases hl
  | rendered hp =>
    obtain ⟨-, template, ht, hfile⟩ := hp
    exact ⟨template, ht, Fixture.below_of_safeRelative? ht _, hfile⟩

end Confinement

/-- Two sites that cannot be told apart below the roots of the first: the same files are there, the
same scripts do the same, and the same templates are rendered in the same way. -/
structure SameBelowRoots (a b : Site) : Prop extends SameShape a b where
  /-- The same files and directories. -/
  nodes : ∀ path, a.Contains path → b.disk.lookup path = a.disk.lookup path
  /-- The same data scripts. -/
  dataScripts : ∀ path, a.Contains path → ∀ r,
    b.hooks.pageData.map (· path r) = a.hooks.pageData.map (· path r)
  /-- The same scripts. -/
  scripts : ∀ path, a.Contains path → ∀ r,
    b.hooks.script.map (· path r) = a.hooks.script.map (· path r)
  /-- The same templates. -/
  templates : ∀ name, a.HasTemplate name → b.hooks.render name = a.hooks.render name

/-- What is confined comes to the same on a site that is the same below the roots. -/
theorem SameBelowRoots.agreesOn {a b : Site} (h : a.SameBelowRoots b) {e : Event}
    (hc : a.Confines e) (ht : ∀ name, e = .rendered name → a.HasTemplate name)
    (hd : ∀ r, e ≠ .delegated r) : a.AgreesOn b e := by
  cases e with
  | tested path => exact Disk.isFile_congr (h.nodes path (hc path rfl))
  | opened path => exact Disk.read_congr (h.nodes path (hc path rfl))
  | augmented file r => exact h.dataScripts file (hc file rfl) r
  | rendered name => exact h.templates name (ht name rfl)
  | scripted file r => exact h.scripts file (hc file rfl) r
  | delegated r => exact absurd rfl (hd r)
  | matched action => trivial
  | forwarded sent succeeded => trivial

/-- Nothing elsewhere has any influence on the preview. -/
theorem preview_of_sameBelowRoots {a b : Site} (h : a.SameBelowRoots b) (r : Request) :
    b.preview r = a.preview r := by
  apply preview_congr h.toSameShape
  intro e he
  obtain ⟨page, -, hdoes⟩ := preview_all a r e he
  refine h.agreesOn (hdoes.confines a) ?_ ?_
  · rintro name rfl
    exact hasTemplate_of_rendered a he
  · rintro q rfl
    cases hdoes with
    | dataLooks hl => cases hl
    | scriptLooks hl => cases hl

/-- Nothing elsewhere has any influence on the fixtures. -/
theorem script_of_sameBelowRoots {a b : Site} (h : a.SameBelowRoots b) (r : Request) :
    b.script r = a.script r := by
  apply script_congr h.toSameShape
  intro e he
  have hdoes := script_all a r e he
  refine h.agreesOn (hdoes.confines a) ?_ ?_
  · rintro name rfl
    cases hdoes with
    | looks hf hl => cases hl
  · rintro q rfl
    cases hdoes with
    | looks hf hl => cases hl

/-- Every path that a stage tests, reads or hands to one who runs scripts is a root joined with
plain names, so that its components are those of the root and then these names. Only templates
whose cleaned name is a file below the root of the templates are rendered. And what is not below
the roots has no influence on a stage. -/
theorem stages_stay_below_roots (site : Site) (r : Request) :
    (∀ e ∈ (site.preview r).events ++ (site.script r).events, ∀ path, e.path? = some path →
      ∃ root ∈ site.fixtures.viewPath :: site.fixtures.dataPaths, ∃ names : List String,
        names ≠ [] ∧ (∀ name ∈ names, Path.PlainName name) ∧
        path = Path.join root (String.intercalate "/" names) ∧
        Path.components path = Path.components root ++ names.map .name) ∧
    (∀ name, .rendered name ∈ (site.preview r).events ++ (site.script r).events →
      ∃ template, Fixture.safeRelative? name = some template ∧
        Path.Below site.fixtures.viewPath (Path.join site.fixtures.viewPath template) ∧
        site.disk.isFile (Path.join site.fixtures.viewPath template) = true) ∧
    (∀ other : Site, site.SameBelowRoots other →
      other.preview r = site.preview r ∧ other.script r = site.script r) := by
  refine ⟨?_, ?_, ?_⟩
  · intro e he path hpath
    have hc : site.Confines e := by
      rcases List.mem_append.mp he with hm | hm
      · exact preview_confined site r e hm
      · exact script_confined site r e hm
    obtain ⟨root, hroot, names, hn, hp, rfl⟩ := hc path hpath
    exact ⟨root, hroot, names, hn, hp, rfl, Path.components_join hn hp root⟩
  · intro name he
    rcases List.mem_append.mp he with hm | hm
    · exact hasTemplate_of_rendered site hm
    · cases script_all site r _ hm with
      | looks hf hl => cases hl
  · intro other h
    exact ⟨preview_of_sameBelowRoots h r, script_of_sameBelowRoots h r⟩

/-- A site with one page, its data and its data script. -/
def shop : Site where
  disk := (((Disk.empty ["srv"]).write "views/shop/list.tpl" []).write
    "data/shop/page/list.json" []).write "data/shop/page/list.js" []
  fixtures := ⟨"views", ["test", "data"]⟩
  hooks := { Hooks.default with pageData := some fun _ _ _ => none }

/-- A request for the page, with escapes and a dot between slashes. -/
def shopRequest : Request := ⟨"GET", ⟨none, "", "/shop/page/%2E/list%2etpl", none⟩, [], [], none⟩

/-- The same site, but with a renderer that would show a template outside. -/
def leakyShop : Site :=
  { shop with hooks := { shop.hooks with
      render := fun name data =>
        if name = "../secret.tpl" then none else shop.hooks.render name data } }

/-- A page with a data script, below two of the roots; a secret beside them has no influence. -/
theorem stages_stay_below_roots_shop :
    (∃ root ∈ ["views", "test", "data"], ∃ names : List String,
      names ≠ [] ∧ (∀ name ∈ names, Path.PlainName name) ∧
      "data/shop/page/list.js" = Path.join root (String.intercalate "/" names) ∧
      Path.components "data/shop/page/list.js" = Path.components root ++ names.map .name) ∧
    (∃ template, Fixture.safeRelative? "shop/./list.tpl" = some template ∧
      Path.Below "views" (Path.join "views" template) ∧
      shop.disk.isFile (Path.join "views" template) = true) ∧
    leakyShop.preview shopRequest = shop.preview shopRequest ∧
    leakyShop.script shopRequest = shop.script shopRequest := by
  have hrun : .augmented "data/shop/page/list.js" shopRequest ∈
      (shop.preview shopRequest).events ++ (shop.script shopRequest).events := by decide +kernel
  have hshown : .rendered "shop/./list.tpl" ∈
      (shop.preview shopRequest).events ++ (shop.script shopRequest).events := by decide +kernel
  have hsame : shop.SameBelowRoots leakyShop := by
    refine ⟨⟨rfl, rfl, rfl⟩, fun _ _ => rfl, fun _ _ _ => rfl, fun _ _ _ => rfl, ?_⟩
    rintro name ⟨template, hclean, -⟩
    have hno : Fixture.safeRelative? "../secret.tpl" = none := by decide +kernel
    have hname : name ≠ "../secret.tpl" := by
      rintro rfl
      rw [hno] at hclean
      cases hclean
    funext data
    exact if_neg hname
  obtain ⟨hpaths, htemplates, hothers⟩ := stages_stay_below_roots shop shopRequest
  exact ⟨hpaths _ hrun _ rfl, htemplates _ hshown, hothers _ hsame⟩

end Site

end PagePreview
