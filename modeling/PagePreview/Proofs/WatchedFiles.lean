import PagePreview.Proofs.PathTargets
import PagePreview.Rule.FileReport

/-!
# Which changes concern the rule files

The directories of the rule files are watched, and no others. A change in one of them is reported
with the directory as it was registered, seen from the working directory but otherwise as it is
written. It is recognised as the change of a rule file by the place of the file's directory, and
that goes wrong if the report does not spell this place out: a directory that was registered with
two dots, or through a link, is reported with them, and its files are only recognised if they are
written exactly as they are reported.
-/

namespace PagePreview

open PagePreview.Path (walk WellFormed)

variable {fs : FileSystem} {files : List String} {file : String} {dir : List Path.Component}

/-! ## Directories to watch -/

namespace RuleWatcher

/-- A path that is put in stands there, with those that stood there. -/
theorem mem_insertOrdered {p q : List Path.Component} {paths : List (List Path.Component)} :
    q ∈ Path.insertOrdered p paths ↔ q = p ∨ q ∈ paths := by
  induction paths with
  | nil => simp [Path.insertOrdered]
  | cons r rest ih =>
    unfold Path.insertOrdered
    by_cases hp : p = r
    · rw [if_pos hp, hp]
      simp
    · rw [if_neg hp]
      split
      · simp
      · rw [List.mem_cons, ih, List.mem_cons]
        exact or_left_comm

/-- So do paths that are put in one after another. -/
theorem mem_foldl_insertOrdered {q : List Path.Component}
    {dirs paths : List (List Path.Component)} :
    q ∈ dirs.foldl (fun paths p => Path.insertOrdered p paths) paths ↔ q ∈ dirs ∨ q ∈ paths := by
  induction dirs generalizing paths with
  | nil => simp
  | cons p rest ih =>
    rw [List.foldl_cons, ih, mem_insertOrdered, List.mem_cons]
    exact or_left_comm.trans or_assoc.symm

/-- The directories of the files are watched, and no others. -/
theorem mem_directoriesOf :
    dir ∈ directoriesOf files ↔ ∃ file ∈ files, Path.directory file = dir := by
  unfold directoriesOf
  rw [mem_foldl_insertOrdered, List.mem_map]
  simp

/-- The directories of files are well-formed paths. -/
theorem wellFormed_of_mem_directoriesOf (h : dir ∈ directoriesOf files) :
    WellFormed dir ∧ dir ≠ [] := by
  obtain ⟨file, -, rfl⟩ := mem_directoriesOf.mp h
  exact Path.wellFormed_directory file

end RuleWatcher

namespace FileSystem

/-- The directories of all these files are there. -/
def Holds (fs : FileSystem) (files : List String) : Prop :=
  ∀ file ∈ files, (fs.find? (Path.ofComponents (Path.directory file))).isSome

/-- Every directory of a rule file is found. -/
theorem Holds.find? (h : fs.Holds files) (hdir : dir ∈ RuleWatcher.directoriesOf files) :
    ∃ place, fs.find? (Path.ofComponents dir) = some place := by
  obtain ⟨file, hfile, rfl⟩ := RuleWatcher.mem_directoriesOf.mp hdir
  exact Option.isSome_iff_exists.mp (h file hfile)

/-- So all of them are watched. -/
theorem Holds.watch? (h : fs.Holds files) :
    RuleWatcher.watch? fs files = some ⟨files, RuleWatcher.directoriesOf files⟩ := by
  unfold RuleWatcher.watch?
  apply if_pos
  rw [List.all_eq_true]
  intro dir hdir
  rw [Option.isSome_iff_exists]
  exact h.find? hdir

/-- On a disk, watching starts as `start?` says. -/
theorem watch?_fileSystem (disk : Disk) (files : List String) :
    RuleWatcher.watch? disk.fileSystem files = RuleWatcher.start? disk files := by
  have hfound : ∀ path, (disk.fileSystem.find? path).isSome = (disk.lookup path).toOption.isSome :=
    fun path => (Disk.lookup_isSome disk path).symm
  unfold RuleWatcher.watch? RuleWatcher.start?
  simp only [hfound]

/-! ## How directories are reported -/

/-- What file systems do: a path leads on from the working directory, and the place of something is
a path that leads there. -/
structure Lawful (fs : FileSystem) : Prop where
  /-- Paths that are the same from the working directory lead to the same place. -/
  from_home : ∀ {p q : String} {a b : Location},
    fs.reported (Path.components p) = fs.reported (Path.components q) →
      fs.find? p = some a → fs.find? q = some b → a = b
  /-- A path that is written as a place leads to this place. -/
  canonical : ∀ {p q : String} {a b : Location},
    fs.reported (Path.components p) = .root :: b.map .name →
      fs.find? p = some a → fs.find? q = some b → a = b

/-- Every path leads where its text says. -/
def WithoutLinks (fs : FileSystem) : Prop :=
  ∀ path place, fs.find? path = some place → place = walk fs.home (Path.components path)

/-- A directory is reported as the place that it stands at. -/
def SpelledOut (fs : FileSystem) (dir : List Path.Component) : Prop :=
  ∃ place, fs.find? (Path.ofComponents dir) = some place ∧
    fs.reported dir = .root :: place.map .name

/-- A path from the root is reported as it is. -/
theorem reported_of_root (fs : FileSystem) (steps : List Path.Component) :
    fs.reported (.root :: steps) = .root :: steps := rfl

/-- Any other path is reported from the root, without its steps in place. -/
theorem reported_of_relative (fs : FileSystem) (h : dir.head? ≠ some .root) :
    fs.reported dir = .root :: (fs.home.map .name ++ dir.filter (· != .current)) := by
  unfold reported RuleWatcher.reportedAs
  split
  · exact absurd rfl h
  · rfl

/-- A report begins at the root. -/
theorem reported_eq_cons (fs : FileSystem) (dir : List Path.Component) :
    ∃ steps, fs.reported dir = .root :: steps := by
  unfold reported RuleWatcher.reportedAs
  split
  · exact ⟨_, rfl⟩
  · exact ⟨_, rfl⟩

/-- What is reported is a path from the root. -/
theorem reported_reported (fs : FileSystem) (dir : List Path.Component) :
    fs.reported (fs.reported dir) = fs.reported dir := by
  obtain ⟨steps, hsteps⟩ := fs.reported_eq_cons dir
  rw [hsteps, reported_of_root]

/-- A directory is reported as a path that leads to it. -/
theorem walk_reported (fs : FileSystem) (dir : List Path.Component) :
    walk fs.home (fs.reported dir) = walk fs.home dir := by
  by_cases hroot : dir.head? = some .root
  · obtain ⟨steps, rfl⟩ := List.head?_eq_some_iff.mp hroot
    rw [reported_of_root]
  · rw [reported_of_relative fs hroot]
    change walk [] (fs.home.map .name ++ dir.filter (· != .current)) = _
    rw [Path.walk_append, Path.walk_names, Path.walk_filter_current]
    rfl

/-- A path is reported with its steps up, if it has any. -/
theorem parent_mem_reported : .parent ∈ fs.reported dir ↔ .parent ∈ dir := by
  by_cases hroot : dir.head? = some .root
  · obtain ⟨steps, rfl⟩ := List.head?_eq_some_iff.mp hroot
    rw [reported_of_root]
  · rw [reported_of_relative fs hroot]
    simp

/-- A path without steps upwards consists of names after the root. -/
theorem exists_names_of_reported (fs : FileSystem) (h : WellFormed dir) (hdots : .parent ∉ dir) :
    ∃ names : List String, fs.reported dir = .root :: names.map .name := by
  have hnames : ∀ steps : List Path.Component, (∀ c ∈ steps, c.IsStep) → .parent ∉ steps →
      ∃ names : List String, steps = names.map .name := by
    intro steps hsteps hdots
    induction steps with
    | nil => exact ⟨[], rfl⟩
    | cons c rest ih =>
      obtain ⟨names, hrest⟩ := ih (fun d hd => hsteps d (List.mem_cons_of_mem c hd))
        fun hmem => hdots (List.mem_cons_of_mem c hmem)
      rcases hsteps c List.mem_cons_self with rfl | ⟨name, -, rfl⟩
      · exact absurd List.mem_cons_self hdots
      · exact ⟨name :: names, by rw [hrest, List.map_cons]⟩
  obtain ⟨front, steps, rfl, hfront, hsteps⟩ := h
  obtain ⟨names, rfl⟩ := hnames steps hsteps fun hmem => hdots (List.mem_append_right _ hmem)
  have hfilter : (names.map Path.Component.name).filter (· != .current) = names.map .name := by
    rw [List.filter_eq_self]
    intro c hc
    obtain ⟨name, -, rfl⟩ := List.mem_map.mp hc
    rfl
  rcases hfront with rfl | rfl | rfl
  · exact ⟨names, rfl⟩
  · refine ⟨fs.home ++ names, ?_⟩
    rw [reported_of_relative fs (by simp), List.filter_append, hfilter, List.map_append]
    rfl
  · refine ⟨fs.home ++ names, ?_⟩
    have hrelative : ([] ++ names.map Path.Component.name).head? ≠ some .root := by
      cases names <;> simp
    rw [reported_of_relative fs hrelative, List.nil_append, hfilter, List.map_append]

/-- If there are no links, only two dots keep a report from spelling a place out. -/
theorem WithoutLinks.spelledOut_iff (h : fs.WithoutLinks) (hdir : WellFormed dir) (hne : dir ≠ [])
    {place : Location} (hplace : fs.find? (Path.ofComponents dir) = some place) :
    fs.SpelledOut dir ↔ .parent ∉ dir := by
  constructor
  · rintro ⟨there, -, hreported⟩ hdots
    have hthere : .parent ∈ fs.reported dir := parent_mem_reported.mpr hdots
    rw [hreported] at hthere
    simp at hthere
  · intro hdots
    obtain ⟨names, hnames⟩ := exists_names_of_reported fs hdir hdots
    have hwalk := fs.walk_reported dir
    rw [hnames] at hwalk
    change walk [] (names.map .name) = _ at hwalk
    rw [Path.walk_names, List.nil_append] at hwalk
    have hthere := h _ place hplace
    rw [Path.components_ofComponents hdir hne, ← hwalk] at hthere
    exact ⟨place, hplace, hthere ▸ hnames⟩

/-- A file system without links is lawful. -/
theorem WithoutLinks.lawful (h : fs.WithoutLinks) : fs.Lawful where
  from_home := by
    intro p q a b hreported hp hq
    rw [h p a hp, h q b hq, ← walk_reported, hreported, walk_reported]
  canonical := by
    intro p q a b hreported hp hq
    rw [h p a hp, ← walk_reported, hreported]
    exact (Path.walk_names [] b).trans (List.nil_append b)

/-- A disk has no links. -/
theorem withoutLinks_fileSystem (disk : Disk) : disk.fileSystem.WithoutLinks := by
  intro path place hplace
  rw [find?_fileSystem] at hplace
  cases hlocate : disk.locate path with
  | error e =>
    rw [hlocate] at hplace
    cases hplace
  | ok l =>
    rw [hlocate] at hplace
    cases hplace
    exact (Disk.target_of_locate hlocate).symm.trans (Disk.target_eq_walk disk path)

/-! ## Reports of entries -/

/-- An entry of a directory. -/
structure Entry where
  /-- The directory, as it is watched. -/
  dir : List Path.Component
  /-- The name. -/
  name : String

/-- The path under which an entry is reported. -/
def path (fs : FileSystem) (e : Entry) : List Path.Component := fs.reported e.dir ++ [.name e.name]

/-- A path names an entry: the names are the same, and the directories are in the same place. -/
def Names (fs : FileSystem) (file : String) (e : Entry) : Prop :=
  Path.fileName? file = some e.name ∧ ∃ place,
    fs.find? (Path.ofComponents (Path.directory file)) = some place ∧
      fs.find? (Path.ofComponents e.dir) = some place

/-- A report of an entry gives away that a path names it. -/
def Tells (fs : FileSystem) (file : String) (e : Entry) : Prop :=
  fs.SpelledOut e.dir ∨ Path.components file = fs.path e

/-- A file that is written as an entry is reported has the name and the directory. -/
theorem of_components_eq_path {e : Entry} (h : Path.components file = fs.path e) :
    Path.fileName? file = some e.name ∧ Path.directory file = fs.reported e.dir := by
  obtain ⟨steps, hsteps⟩ := fs.reported_eq_cons e.dir
  have hinit : (Path.components file).dropLast = fs.reported e.dir := by
    rw [h]
    exact List.dropLast_concat
  have hname : Path.fileName? file = some e.name := by
    rw [Path.fileName?_eq_some_iff_getLast?, h]
    exact List.getLast?_concat
  refine ⟨hname, ?_⟩
  rw [Path.directory_of_fileName? hname, hinit, hsteps, if_neg (List.cons_ne_nil _ _)]

/-- A report of an entry of a watched directory is found to be that of a rule file if the rule file
names the entry and the report tells. -/
theorem sameFile_path (hfs : fs.Lawful) (hfiles : fs.Holds files) {e : Entry}
    (hdir : e.dir ∈ RuleWatcher.directoriesOf files) (hfile : file ∈ files) :
    RuleWatcher.sameFile fs (fs.path e) file = true ↔ fs.Names file e ∧ fs.Tells file e := by
  obtain ⟨place, hplace⟩ := hfiles.find? hdir
  obtain ⟨there, hthere⟩ := Option.isSome_iff_exists.mp (hfiles file hfile)
  obtain ⟨hwritten, hne⟩ := RuleWatcher.wellFormed_of_mem_directoriesOf hdir
  obtain ⟨hwritten', hne'⟩ := Path.wellFormed_directory file
  have hread := Path.components_ofComponents hwritten hne
  have hread' := Path.components_ofComponents hwritten' hne'
  unfold path
  rw [RuleWatcher.sameFile_append_name, hthere, Bool.or_eq_true, Bool.and_eq_true, beq_iff_eq,
    beq_iff_eq, beq_iff_eq]
  constructor
  · rintro (hsame | ⟨hname, hspelled⟩)
    · obtain ⟨hname, hdirectory⟩ := of_components_eq_path hsame
      have heq : there = place := by
        apply hfs.from_home ?_ hthere hplace
        rw [hread, hread', hdirectory, reported_reported]
      exact ⟨⟨hname, place, heq ▸ hthere, hplace⟩, .inr hsame⟩
    · have heq : place = there := by
        apply hfs.canonical ?_ hplace hthere
        rw [hread]
        exact hspelled
      exact ⟨⟨hname, place, heq ▸ hthere, hplace⟩, .inl ⟨place, hplace, heq ▸ hspelled⟩⟩
  · rintro ⟨⟨hname, place', hfound, hfound'⟩, ⟨spelled, hspelled, hreported⟩ | hsame⟩
    · right
      refine ⟨hname, ?_⟩
      rw [hreported]
      cases hthere.symm.trans hfound
      cases hspelled.symm.trans hfound'
      rfl
    · exact .inl hsame

end FileSystem

namespace RuleWatcher

open FileSystem (Entry)

/-- Two dots in a watched directory come from the path of a rule file. -/
theorem parent_notMem_of_files (h : ∀ file ∈ files, .parent ∉ Path.components file)
    (hdir : dir ∈ directoriesOf files) : .parent ∉ dir := by
  obtain ⟨file, hfile, rfl⟩ := mem_directoriesOf.mp hdir
  fun_cases Path.directory file with
  | case1 => simp
  | case2 cs _ hparent =>
    intro hdots
    obtain rfl := Path.eq_dropLast_of_parent? hparent
    exact h file hfile (List.dropLast_subset _ hdots)
  | case3 => simp

/-- A report is found to be that of a rule file if a rule file names one of the entries and the
report tells. -/
theorem any_sameFile_path (hfs : fs.Lawful) (hfiles : fs.Holds files) {entries : List Entry}
    (hentries : ∀ e ∈ entries, e.dir ∈ directoriesOf files) :
    ((entries.map fs.path).any fun path => files.any (sameFile fs path)) = true ↔
      ∃ e ∈ entries, ∃ file ∈ files, fs.Names file e ∧ fs.Tells file e := by
  rw [List.any_map, List.any_eq_true]
  refine exists_congr fun e => and_congr_right fun he => ?_
  rw [Function.comp_apply, List.any_eq_true]
  exact exists_congr fun file => and_congr_right fun hfile =>
    FileSystem.sameFile_path hfs hfiles (hentries e he) hfile

/-- Whatever the spelling of the rule files, as long as their directories are there: their
directories are watched, and no others. A report of entries of these directories is answered, with
the rules that the files hold, if something was created, modified or removed, a rule file names one
of the entries, and the report tells. Without links it always tells, unless there are two dots in
the entry's directory; then it tells of a file that is written in the same way. -/
theorem handles_reports_that_tell (files : List String) :
    ∃ w : RuleWatcher, w.files = files ∧
      (∀ dir, dir ∈ w.directories ↔ ∃ file ∈ files, Path.directory file = dir) ∧
      ((∀ file ∈ files, .parent ∉ Path.components file) → ∀ dir ∈ w.directories, .parent ∉ dir) ∧
      ∀ fs : FileSystem, fs.Holds files → watch? fs files = some w ∧
        (fs.Lawful → ∀ (kind : ChangeKind) (entries : List Entry),
          (∀ e ∈ entries, e.dir ∈ w.directories) → ∀ rules,
          w.handle? fs ⟨kind, entries.map fs.path⟩ = some rules ↔
            rules = fs.load files ∧ kind.counts ∧
              ∃ e ∈ entries, ∃ file ∈ files, fs.Names file e ∧ fs.Tells file e) ∧
        (fs.WithoutLinks → fs.Lawful ∧ ∀ e : Entry, e.dir ∈ w.directories → ∀ file,
          fs.Tells file e ↔ .parent ∉ e.dir ∨ Path.components file = fs.path e) := by
  refine ⟨⟨files, directoriesOf files⟩, rfl, fun dir => mem_directoriesOf,
    fun hdots dir => parent_notMem_of_files hdots, fun fs hfiles => ⟨hfiles.watch?, ?_, ?_⟩⟩
  · intro hfs kind entries hentries rules
    unfold handle?
    dsimp only
    rw [Option.ite_none_right_eq_some, Bool.and_eq_true, any_sameFile_path hfs hfiles hentries,
      Option.some_inj, and_comm, eq_comm]
  · intro hlinks
    refine ⟨hlinks.lawful, fun e he file => or_congr_left ?_⟩
    obtain ⟨hwritten, hne⟩ := wellFormed_of_mem_directoriesOf he
    obtain ⟨place, hplace⟩ := hfiles.find? he
    exact hlinks.spelledOut_iff hwritten hne hplace

/-- Rule files in three spellings. -/
def spellings : List String := ["./a.conf", "conf/b.conf", "/srv/conf/../c.conf"]

/-- A disk with their directories. -/
def spelledDisk : Disk :=
  ((Disk.empty ["srv"]).write "c.conf" (Utf8.encode "rewrite ^ /c")).write "conf/b.conf"
    (Utf8.encode "rewrite ^ /b")

/-- A file becomes the first rule file, and the rules are sent; a file of the same name elsewhere
comes to be there, and nothing is sent. The third rule file is removed, and recognised although its
path goes up again, since it is reported as it is written. -/
theorem handles_reports_that_tell_spelled :
    ∃ w : RuleWatcher, watch? spelledDisk.fileSystem spellings = some w ∧
      w.handle? spelledDisk.fileSystem
        ⟨.modified, [[.root, .name "srv", .name "conf", .name "x"],
          [.root, .name "srv", .name "a.conf"]]⟩ = some (spelledDisk.fileSystem.load spellings) ∧
      w.handle? spelledDisk.fileSystem
        ⟨.created, [[.root, .name "srv", .name "conf", .name "a.conf"]]⟩ = none ∧
      w.handle? spelledDisk.fileSystem
        ⟨.removed, [[.root, .name "srv", .name "conf", .parent, .name "c.conf"]]⟩ =
          some (spelledDisk.fileSystem.load spellings) := by
  have hholds : spelledDisk.fileSystem.Holds spellings := by
    unfold FileSystem.Holds
    decide +kernel
  obtain ⟨w, -, hdirs, -, hw⟩ := handles_reports_that_tell spellings
  obtain ⟨hwatch, hhandle, hlinks⟩ := hw _ hholds
  obtain ⟨hlawful, htells⟩ := hlinks (FileSystem.withoutLinks_fileSystem spelledDisk)
  have hhere : [.current] ∈ w.directories := (hdirs _).mpr ⟨"./a.conf", by decide, by decide⟩
  have hconf : [.name "conf"] ∈ w.directories :=
    (hdirs _).mpr ⟨"conf/b.conf", by decide, by decide⟩
  have hup : [.root, .name "srv", .name "conf", .parent] ∈ w.directories :=
    (hdirs _).mpr ⟨"/srv/conf/../c.conf", by decide, by decide⟩
  refine ⟨w, hwatch, ?_, ?_, ?_⟩
  · apply (hhandle hlawful .modified [⟨[.name "conf"], "x"⟩, ⟨[.current], "a.conf"⟩]
      (by simp [hhere, hconf]) _).mpr
    refine ⟨rfl, rfl, ⟨[.current], "a.conf"⟩, by simp, "./a.conf", by decide, ⟨by decide, ["srv"],
      by decide +kernel, by decide +kernel⟩, (htells _ hhere _).mpr (.inl (by decide))⟩
  · rw [Option.eq_none_iff_forall_ne_some]
    intro rules hrules
    obtain ⟨-, -, e, he, file, hfile, ⟨hname, place, hplace, hplace'⟩, -⟩ :=
      (hhandle hlawful .created [⟨[.name "conf"], "a.conf"⟩] (by simp [hconf]) _).mp hrules
    have hothers : ∀ file ∈ spellings, Path.fileName? file = some "a.conf" →
        spelledDisk.fileSystem.find? (Path.ofComponents (Path.directory file)) ≠
          spelledDisk.fileSystem.find? (Path.ofComponents [.name "conf"]) := by
      decide +kernel
    cases List.mem_singleton.mp he
    exact hothers file hfile hname (hplace.trans hplace'.symm)
  · apply (hhandle hlawful .removed [⟨[.root, .name "srv", .name "conf", .parent], "c.conf"⟩]
      (by simp [hup]) _).mpr
    refine ⟨rfl, rfl, _, List.mem_cons_self, "/srv/conf/../c.conf", by decide, ⟨by decide, ["srv"],
      by decide +kernel, by decide +kernel⟩, (htells _ hup _).mpr (.inr (by decide +kernel))⟩

/-- A disk with a rule file, and with a directory that a path may go down into and up again. -/
def dottedDisk : Disk :=
  ((Disk.empty ["srv"]).write "a.conf" (Utf8.encode "rewrite ^ /a")).write "conf/b.conf"
    (Utf8.encode "x")

/-- A rule file in a directory that is written with two dots is watched in vain: it is changed, the
change is reported, and nothing is sent. -/
theorem dotted_rule_file_is_missed :
    let edited := dottedDisk.write "a.conf" (Utf8.encode "rewrite ^ /b")
    let e : Entry := ⟨[.name "conf", .parent], "a.conf"⟩
    ∃ w : RuleWatcher, start? dottedDisk ["conf/../a.conf"] = some w ∧
      e.dir ∈ w.directories ∧ edited.fileSystem.Names "conf/../a.conf" e ∧
      w.handle? edited.fileSystem ⟨.modified, [edited.fileSystem.path e]⟩ = none ∧
      ruleChange? dottedDisk edited w "a.conf" = none ∧
      RuleSet.load edited w.files ≠ RuleSet.load dottedDisk w.files := by
  have hholds : dottedDisk.fileSystem.Holds ["conf/../a.conf"] := by
    unfold FileSystem.Holds
    decide +kernel
  have hstart := FileSystem.watch?_fileSystem dottedDisk ["conf/../a.conf"]
  rw [hholds.watch?] at hstart
  refine ⟨_, hstart.symm, by decide +kernel,
    ⟨by decide +kernel, ["srv"], by decide +kernel, by decide +kernel⟩, by decide +kernel,
    by decide +kernel, fun h => ?_⟩
  exact absurd (congrArg (List.map Rule.target) h) (by decide +kernel)

end RuleWatcher

end PagePreview
