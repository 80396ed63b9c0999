import PagePreview.Proofs.DiskChanges
import PagePreview.Proofs.WatchedFiles

/-!
# Changes that are recognised

Changes of files leave the directories as they are, so the place that the path of a file names stays
the same while the files change, and so do the places that are watched. Only a change at a place
that a path names gives its file another text. The report of such a change is relevant, unless the
directory is registered with two dots and the rule file is written in another way.
-/

namespace PagePreview

open PagePreview.Path (walk WellFormed)

/-! ## Directories stay -/

namespace Disk

variable {l : Location} {a b c : Disk}

/-- Two disks have the same directories. -/
structure SameDirectories (a b : Disk) : Prop where
  /-- The working directory is the same. -/
  home : b.home = a.home
  /-- What is a directory on one is a directory on the other. -/
  directory : ∀ m, b.get? m = some .directory ↔ a.get? m = some .directory

/-- Every disk has the same directories as itself. -/
theorem SameDirectories.refl (a : Disk) : SameDirectories a a := ⟨rfl, fun _ => .rfl⟩

/-- Disks have the same directories in either order. -/
theorem SameDirectories.symm (h : SameDirectories a b) : SameDirectories b a :=
  ⟨h.home.symm, fun m => (h.directory m).symm⟩

/-- Disks that have the same directories as a third have the same ones. -/
theorem SameDirectories.trans (hab : SameDirectories a b) (hbc : SameDirectories b c) :
    SameDirectories a c :=
  ⟨hbc.home.trans hab.home, fun m => (hbc.directory m).trans (hab.directory m)⟩

/-- A change of a file leaves the directories as they are. -/
theorem FileChange.sameDirectories (h : FileChange l a b) : SameDirectories a b := by
  refine ⟨h.home, fun m => ?_⟩
  by_cases hm : m = l
  · rw [hm]
    exact iff_of_false h.is_file h.was_file
  · rw [h.others m hm]

/-- A path that leads to a directory is not touched by changes of files. -/
theorem FileChange.locate_directory (h : FileChange l a b) {path : String} {place : Location}
    (hlocate : a.locate path = .ok place) (hdir : a.get? place = some .directory) :
    b.locate path = .ok place := by
  apply h.locate hlocate
  rintro rfl
  exact h.was_file hdir

/-- The path of a file names a place, in a directory. -/
structure Names (d : Disk) (file : String) (l : Location) : Prop where
  /-- The place is in a directory. -/
  directory : d.get? l.dropLast = some .directory
  /-- The path leads to the directory, and ends in the name. -/
  named : ∃ name, Path.fileName? file = some name ∧ l = walk d.home (Path.directory file) ++ [name]

variable {file : String}

/-- A path names the same location on disks with the same directories. -/
theorem Names.of_sameDirectories (h : SameDirectories a b) (hl : a.Names file l) :
    b.Names file l := by
  obtain ⟨hdir, hnamed⟩ := hl
  refine ⟨(h.directory _).mpr hdir, ?_⟩
  rw [h.home]
  exact hnamed

/-- A path that leads to a location names it, unless there is a directory. -/
theorem Names.of_locate (hlocate : a.locate file = .ok l) (hl : a.get? l ≠ some .directory) :
    a.Names file l := by
  obtain ⟨hdir, hnamed⟩ := named_of_locate hlocate hl
  exact ⟨hdir, hnamed⟩

/-- The directory of a named location is the one that the path goes through. -/
theorem Names.dropLast (h : a.Names file l) : l.dropLast = walk a.home (Path.directory file) := by
  obtain ⟨-, name, -, rfl⟩ := h
  exact List.dropLast_concat

/-- A text that is changed is in a file whose path names the place of the change. -/
theorem FileChange.names (h : FileChange l a b)
    (htext : RuleSet.textOf? b file ≠ RuleSet.textOf? a file) : a.Names file l := by
  by_contra hno
  apply htext
  apply h.textOf?
  · exact fun hlocate => hno (.of_locate hlocate h.was_file)
  · exact fun hlocate =>
      hno ((Names.of_locate hlocate h.is_file).of_sameDirectories h.sameDirectories.symm)

end Disk

/-! ## Reports of rule files are recognised -/

namespace RuleWatcher

variable {disk : Disk} {w : RuleWatcher} {dir : List Path.Component} {place : Location}

/-- A directory whose changes are reported is one that is watched. -/
theorem exists_of_reportDirectory? {reported : List Path.Component}
    (h : w.reportDirectory? disk place = some reported) :
    ∃ dir ∈ w.directories, disk.locate (Path.ofComponents dir) = .ok place ∧
      reported = reportedAs disk dir := by
  obtain ⟨dir, hfind, rfl⟩ := Option.map_eq_some_iff.mp h
  refine ⟨dir, List.mem_reverse.mp (List.mem_of_find?_eq_some hfind), ?_, rfl⟩
  have hplace := List.find?_some hfind
  cases hthere : disk.locate (Path.ofComponents dir) with
  | error e =>
    rw [hthere] at hplace
    cases hplace
  | ok there =>
    rw [hthere] at hplace
    rw [eq_of_beq hplace]

/-- Changes in a directory that is watched are reported. -/
theorem reportDirectory?_isSome (hdir : dir ∈ w.directories)
    (h : disk.locate (Path.ofComponents dir) = .ok place) :
    (w.reportDirectory? disk place).isSome := by
  unfold reportDirectory?
  rw [Option.isSome_map, List.find?_isSome]
  refine ⟨dir, List.mem_reverse.mpr hdir, ?_⟩
  rw [h]
  exact beq_self_eq_true place

/-- Reports of rule files tell, in whatever way a directory is registered: one that is registered
with two dots holds only rule files that are written in the same way. -/
def ReportsTell (home : Location) (files : List String) : Prop :=
  ∀ file ∈ files, ∀ dir ∈ directoriesOf files, walk home dir = walk home (Path.directory file) →
    .parent ∉ dir ∨ Path.directory file = reportedAs (.empty home) dir

instance (home : Location) (files : List String) : Decidable (ReportsTell home files) := by
  unfold ReportsTell
  infer_instance

/-- A path to a watched directory leads where its text says. -/
theorem walk_of_locate {files : List String} (hdir : dir ∈ directoriesOf files)
    (hplace : disk.locate (Path.ofComponents dir) = .ok place) : walk disk.home dir = place := by
  obtain ⟨hwritten, hne⟩ := wellFormed_of_mem_directoriesOf hdir
  have htarget := Disk.target_of_locate hplace
  rwa [Disk.target_eq_walk, Path.components_ofComponents hwritten hne] at htarget

/-- A change is found to concern a rule file that names it, if the report tells. -/
theorem concerns_of_walk (hdir : WellFormed dir ∧ dir ≠ [])
    (hplace : disk.locate (Path.ofComponents dir) = .ok place) {file name : String}
    (hname : Path.fileName? file = some name) (hwalk : walk disk.home (Path.directory file) = place)
    (htell : .parent ∉ dir ∨ Path.directory file = reportedAs disk dir) :
    concerns disk (reportedAs disk dir) name file = true := by
  have hfound : disk.fileSystem.find? (Path.ofComponents dir) = some place := by
    rw [FileSystem.find?_fileSystem, hplace]
    rfl
  unfold concerns
  rw [Bool.or_eq_true, Bool.and_eq_true, beq_iff_eq, beq_iff_eq]
  rcases htell with hdots | hwritten
  · right
    refine ⟨hname, ?_⟩
    obtain ⟨there, hthere, hreported⟩ :=
      ((FileSystem.withoutLinks_fileSystem disk).spelledOut_iff hdir.1 hdir.2 hfound).mpr hdots
    cases hfound.symm.trans hthere
    cases hlocate : disk.locate (Path.ofComponents (Path.directory file)) with
    | error e => rfl
    | ok there =>
      obtain ⟨hdir', hne'⟩ := Path.wellFormed_directory file
      have htarget := Disk.target_of_locate hlocate
      rw [Disk.target_eq_walk, Path.components_ofComponents hdir' hne', hwalk] at htarget
      rw [← htarget]
      exact beq_iff_eq.mpr hreported
  · left
    have hne : Path.directory file ≠ [.current] := by
      obtain ⟨steps, hsteps⟩ := disk.fileSystem.reported_eq_cons dir
      rw [hwritten]
      intro hcurrent
      cases hsteps.symm.trans hcurrent
    have hdropped : (Path.components file).dropLast = Path.directory file := by
      rw [Path.directory_of_fileName? hname] at hne ⊢
      by_cases hnil : (Path.components file).dropLast = []
      · rw [if_pos hnil] at hne
        exact absurd rfl hne
      · rw [if_neg hnil]
    rw [Path.components_of_fileName? hname, hdropped, hwritten]

/-- The report of a change at the place of a rule file is relevant. -/
theorem isRelevant_of_names (hdirs : w.directories ⊆ directoriesOf w.files)
    (htell : ReportsTell disk.home w.files) {l : Location} {file : String} (hfile : file ∈ w.files)
    (hl : disk.Names file l) (hwatched : (w.reportDirectory? disk l.dropLast).isSome) :
    w.isRelevant disk l := by
  obtain ⟨reported, hreported⟩ := Option.isSome_iff_exists.mp hwatched
  obtain ⟨dir, hdir, hplace, rfl⟩ := exists_of_reportDirectory? hreported
  have hwalk := walk_of_locate (hdirs hdir) hplace
  rw [hl.dropLast] at hwalk
  obtain ⟨name, hname, hnamed⟩ := hl.named
  have hlast : l.getLast? = some name := by
    rw [hnamed]
    exact List.getLast?_concat
  unfold isRelevant
  rw [hreported, hlast]
  dsimp only
  rw [List.any_eq_true]
  exact ⟨file, hfile, concerns_of_walk (wellFormed_of_mem_directoriesOf (hdirs hdir)) hplace hname
    hl.dropLast.symm (htell file hfile dir (hdirs hdir) hwalk)⟩

end RuleWatcher

end PagePreview
