import PagePreview.Proofs.Consultation
import PagePreview.Proofs.FixtureNames

/-!
# Fixtures are served as what they are

The kind of a fixture is read from the path as it came, and the file is looked for by the cleaned
path. Cleaning leaves out what says nothing and keeps the name at the end, so the file is of the
kind that was read, and the content of a script is never sent as data.
-/

namespace PagePreview

/-! ## Kinds of files -/

/-- The last component of a path is a name of a kind of fixtures: a dot and the extension of the
kind stand at its end, and something before them. -/
def FixtureKind.Names (kind : FixtureKind) (path : String) : Prop :=
  ∃ stem extension, (Path.components path).getLast? = some (.name (stem ++ "." ++ extension)) ∧
    stem ≠ "" ∧ Ascii.sameIgnoringCase extension kind.extension = true

/-- A path has the name of a kind if its extension is that of the kind, in any case. -/
theorem FixtureKind.names_iff {kind : FixtureKind} {path : String} : kind.Names path ↔
    ∃ extension, Path.extension? path = some extension ∧
      Ascii.sameIgnoringCase extension kind.extension = true := by
  constructor
  · rintro ⟨stem, extension, hlast, hstem, hkind⟩
    refine ⟨extension, Path.extension?_eq_some_iff.mpr ⟨stem, hstem, ?_, ?_⟩, hkind⟩
    · exact FixtureRef.dot_notMem_extension hkind
    · exact Path.fileName?_eq_some_iff_getLast?.mpr hlast
  · rintro ⟨extension, hextension, hkind⟩
    obtain ⟨stem, hstem, -, hname⟩ := Path.extension?_eq_some_iff.mp hextension
    exact ⟨stem, extension, Path.fileName?_eq_some_iff_getLast?.mp hname, hstem, hkind⟩

/-- No file is of two kinds. -/
theorem FixtureKind.names_unique {kind kind' : FixtureKind} {path : String} (h : kind.Names path)
    (h' : kind'.Names path) : kind = kind' := by
  obtain ⟨extension, hread, hkind⟩ := names_iff.mp h
  obtain ⟨extension', hread', hkind'⟩ := names_iff.mp h'
  obtain rfl := Option.some.inj (hread.symm.trans hread')
  rw [← FixtureRef.kindOf?_eq_some_iff] at hkind hkind'
  exact Option.some.inj (hkind.symm.trans hkind')

/-- Cleaning a path keeps the name at its end, below every directory. -/
theorem Path.getLast?_components_join {path safe name : String}
    (hsafe : Fixture.safeRelative? path = some safe) (hname : fileName? path = some name)
    (dir : String) : (components (join dir safe)).getLast? = some (.name name) := by
  obtain ⟨names, hnames, rfl⟩ := Option.map_eq_some_iff.mp hsafe
  obtain ⟨hn, hp⟩ := Fixture.plainNames?_plain hnames
  rw [fileName?_eq_some_iff_inner, Fixture.inner_of_plainNames? hnames] at hname
  rw [components_join hn hp, List.getLast?_append, hname]
  rfl

/-- The path of a fixture and its cleaned path are of one kind, below every directory. -/
theorem FixtureRef.names_join {path safe : String} {fixture : FixtureRef}
    (hread : ofPath? path = some fixture) (hsafe : Fixture.safeRelative? fixture.path = some safe)
    (dir : String) : fixture.kind.Names (Path.join dir safe) := by
  obtain ⟨-, extension, hextension, hkind⟩ := ofPath?_eq_some_iff_extension.mp hread
  obtain ⟨stem, hstem, -, hname⟩ := Path.extension?_eq_some_iff.mp hextension
  exact ⟨stem, extension, Path.getLast?_components_join hsafe hname dir, hstem, hkind⟩

/-- No directory in front leaves a path as it is. -/
theorem Path.join_empty (path : String) : join "" path = path := by
  unfold join
  split
  · rfl
  · rw [if_pos (Or.inl rfl), String.empty_append]

/-- A file can be read. -/
theorem Disk.exists_read_of_isFile {disk : Disk} {path : String} (h : disk.isFile path = true) :
    ∃ content, disk.read path = .ok content := by
  revert h
  fun_cases isFile disk path with
  | case1 content hlookup => exact fun _ => ⟨content, by rw [read, hlookup]⟩
  | case2 => exact nofun

/-! ## The stage -/

namespace Site

/-- A request asks for a file as a fixture of a kind. -/
structure AsksFor (site : Site) (r : Request) (kind : FixtureKind) (file : String) : Prop where
  /-- The file is of this kind. -/
  named : kind.Names file
  /-- The decoded path asks for a fixture of this kind, and of the roots of data the file stands
  below the first one from which the cleaned path leads to a file. -/
  found : ∃ below safe before dir after,
    FixtureRef.ofPath? r.target.decodedPath = some ⟨below, kind⟩ ∧
    Fixture.safeRelative? below = some safe ∧
    site.fixtures.dataPaths = before ++ dir :: after ∧ file = Path.join dir safe ∧
    site.disk.isFile file = true ∧
    ∀ other ∈ before, site.disk.isFile (Path.join other safe) = false

variable (site : Site)

/-- A request asks for a file if it is for a fixture whose file it is. -/
theorem asksFor_iff {r : Request} {kind : FixtureKind} {file : String} :
    site.AsksFor r kind file ↔ ∃ below, site.FixtureFile r ⟨below, kind⟩ file := by
  constructor
  · rintro ⟨-, below, safe, before, dir, after, hread, hsafe, hdirs, hfile, hexists, hbefore⟩
    have hfound := Fixture.findIn?_eq_some_iff.mpr
      ⟨before, dir, after, hdirs, hfile, hexists, hbefore⟩
    exact ⟨below, hread, Option.bind_eq_some_iff.mpr ⟨safe, hsafe, hfound⟩⟩
  · rintro ⟨below, hread, hdata⟩
    obtain ⟨safe, hsafe, hfind⟩ := Option.bind_eq_some_iff.mp hdata
    obtain ⟨before, dir, after, hdirs, hfile, hexists, hbefore⟩ :=
      Fixture.findIn?_eq_some_iff.mp hfind
    refine ⟨?_, below, safe, before, dir, after, hread, hsafe, hdirs, hfile, hexists, hbefore⟩
    rw [hfile]
    exact FixtureRef.names_join hread hsafe dir

/-- A fixture is sent with its bytes. -/
theorem sendFixture_value {file : String} {content : Bytes}
    (h : site.disk.read file = .ok content) :
    (site.sendFixture file).value = fixtureResponse content := by
  unfold sendFixture
  rw [Traced.value_bind, h]
  rfl

/-- The answers of the stage: a data file as it is, or what the application's handler answers for a
script. -/
theorem script_value_iff {r : Request} {response : Response} :
    (site.script r).value = some response ↔
      (∃ file content, site.AsksFor r .json file ∧ site.disk.read file = .ok content ∧
        response = fixtureResponse content) ∨
      ∃ file handler, site.AsksFor r .script file ∧ site.hooks.script = some handler ∧
        handler file r = some response := by
  constructor
  · intro h
    by_cases hfound : ∃ fixture file, site.FixtureFile r fixture file
    · obtain ⟨⟨below, kind⟩, file, hfile⟩ := hfound
      have hasks := (asksFor_iff site).mpr ⟨below, hfile⟩
      cases kind with
      | json =>
        obtain ⟨safe, -, dir, -, -, hexists⟩ := dataFile?_eq_some site hfile.2
        obtain ⟨content, hread⟩ := Disk.exists_read_of_isFile hexists
        rw [script_value_json site hfile rfl, sendFixture_value site hread] at h
        exact .inl ⟨file, content, hasks, hread, (Option.some.inj h).symm⟩
      | script =>
        rw [script_value_script site hfile rfl] at h
        obtain ⟨handler, hhandler, hanswer⟩ := Option.bind_eq_some_iff.mp h
        exact .inr ⟨file, handler, hasks, hhandler, hanswer⟩
    · obtain ⟨events, hpass, -⟩ :=
        script_passes site fun fixture file hf => hfound ⟨fixture, file, hf⟩
      rw [hpass] at h
      cases h
  · rintro (⟨file, content, hasks, hread, rfl⟩ | ⟨file, handler, hasks, hhandler, hanswer⟩)
    · obtain ⟨below, hfile⟩ := (asksFor_iff site).mp hasks
      rw [script_value_json site hfile rfl, sendFixture_value site hread]
    · obtain ⟨below, hfile⟩ := (asksFor_iff site).mp hasks
      rw [script_value_script site hfile rfl, hhandler, Option.bind_some, hanswer]

/-- A file that is opened is one that was asked for as data. -/
theorem asksFor_of_opened {r : Request} {file : String}
    (h : .opened file ∈ (site.script r).events) : site.AsksFor r .json file := by
  cases script_all site r _ h with
  | looks hf hl => cases hl
  | opened hf hk => exact (asksFor_iff site).mpr ⟨_, by rwa [← hk]⟩

/-- A script that is run is one that was asked for, and it is given the request. -/
theorem asksFor_of_scripted {r q : Request} {file : String}
    (h : .scripted file q ∈ (site.script r).events) : site.AsksFor r .script file ∧ q = r := by
  cases script_all site r _ h with
  | looks hf hl => cases hl
  | scripted hf hk => exact ⟨(asksFor_iff site).mpr ⟨_, by rwa [← hk]⟩, rfl⟩

/-- Two sites with the same files, which hold the same data files and do the same with scripts. -/
structure SameOfKinds (a b : Site) : Prop extends SameShape a b where
  /-- The same paths lead to files. -/
  files : ∀ path, b.disk.isFile path = a.disk.isFile path
  /-- Data files have the same content. -/
  data : ∀ file, FixtureKind.json.Names file → b.disk.read file = a.disk.read file
  /-- The handlers do the same with scripts. -/
  scripts : ∀ file, FixtureKind.script.Names file → ∀ r,
    b.hooks.script.map (· file r) = a.hooks.script.map (· file r)

/-- The content of other files, and what a handler does with them, has no influence. -/
theorem script_of_sameOfKinds {a b : Site} (h : a.SameOfKinds b) (r : Request) :
    b.script r = a.script r := by
  apply script_congr h.toSameShape
  intro e he
  cases script_all a r e he with
  | looks hf hl =>
    cases hl with
    | tested hs hd => exact h.files _
  | opened hf hk => exact h.data _ (asksFor_of_opened a he).named
  | scripted hf hk => exact h.scripts _ (asksFor_of_scripted a he).1.named r

/-- The kind that is read from a path is the kind of the cleaned path, and so of the file. The stage
answers with the bytes of a data file and their number, from the first root that holds the file, or
with what the application's handler answers for a script, and in no other case. It opens data files
only and hands scripts only to the handler, so neither the content of a script nor what the handler
would do with another file has any influence. -/
theorem fixture_is_served_as_its_kind (site : Site) (r : Request) :
    (∀ path fixture safe, FixtureRef.ofPath? path = some fixture →
      Fixture.safeRelative? fixture.path = some safe → fixture.kind.Names safe) ∧
    (∀ response, (site.script r).value = some response ↔
      (∃ file content, site.AsksFor r .json file ∧ site.disk.read file = .ok content ∧
        response = ⟨200, [⟨"content-type", Utf8.encode "application/json"⟩,
          ⟨"content-length", Utf8.encode (Ascii.decimal content.length)⟩], content⟩) ∨
      ∃ file handler, site.AsksFor r .script file ∧ site.hooks.script = some handler ∧
        handler file r = some response) ∧
    (∀ file, .opened file ∈ (site.script r).events → site.AsksFor r .json file) ∧
    (∀ file q, .scripted file q ∈ (site.script r).events → site.AsksFor r .script file ∧ q = r) ∧
    (∀ file, ¬(FixtureKind.json.Names file ∧ FixtureKind.script.Names file)) ∧
    ∀ other : Site, site.SameOfKinds other → other.script r = site.script r := by
  refine ⟨?_, fun response => script_value_iff site, fun _ => asksFor_of_opened site,
    fun _ _ => asksFor_of_scripted site, ?_, fun other h => script_of_sameOfKinds h r⟩
  · intro path fixture safe hread hsafe
    have hnames := FixtureRef.names_join hread hsafe ""
    rwa [Path.join_empty] at hnames
  · rintro file ⟨hjson, hscript⟩
    cases FixtureKind.names_unique hjson hscript

/-- A site with a data file below its second root, and a script below the first. -/
def library : Site where
  disk := ((Disk.empty ["srv"]).write "test/user/list.js" [0x3B]).write
    "data/user/list.JSON" [0x7B, 0x7D]
  fixtures := ⟨"views", ["test", "data"]⟩
  hooks := Hooks.default

/-- A request for the data file, with slashes and a dot that say nothing. -/
def libraryRequest : Request :=
  ⟨"GET", ⟨none, "", "/test//user/%2E/list.JSON/", none⟩, [], [], none⟩

/-- The data file is asked for in another spelling, and opened. -/
theorem fixture_is_served_as_its_kind_user :
    FixtureKind.json.Names "user/list.JSON" ∧
    library.AsksFor libraryRequest .json "data/user/list.JSON" := by
  have hopened : .opened "data/user/list.JSON" ∈ (library.script libraryRequest).events := by
    decide +kernel
  obtain ⟨hkind, -, hasks, -⟩ := fixture_is_served_as_its_kind library libraryRequest
  exact ⟨hkind "/test//user/./list.JSON/" ⟨"/user/./list.JSON/", .json⟩ _ (by decide) (by decide),
    hasks _ hopened⟩

end Site

end PagePreview
