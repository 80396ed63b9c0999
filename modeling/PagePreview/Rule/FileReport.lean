import PagePreview.Rule.Watcher

/-!
# Reports of changes

What happens to files is reported with its kind and with the paths that it concerns; a file that is
renamed is reported under both its names. The watcher reads the rule files anew if something was
created, modified or removed and one of the paths is that of a rule file. Whether it is depends on
the spelling: a path that was configured is compared as it stands, or by its name and the place of
its directory.
-/

namespace PagePreview

/-- What happened to a file. -/
inductive ChangeKind where
  /-- Something. -/
  | any
  /-- It was opened, read or closed. -/
  | access
  /-- It has come to be there. -/
  | created
  /-- It has another content or another name. -/
  | modified
  /-- It is there no more. -/
  | removed
  /-- Something that concerns no file. -/
  | other
  deriving DecidableEq, Repr

/-- Whether a file may have another text than before. -/
def ChangeKind.counts : ChangeKind → Bool
  | .any => false
  | .access => false
  | .created => true
  | .modified => true
  | .removed => true
  | .other => false

/-- A report of what happened. -/
structure FileReport where
  /-- What it was. -/
  kind : ChangeKind
  /-- The paths that it concerns. -/
  paths : List (List Path.Component)

/-- What a watcher asks of the file system. -/
structure FileSystem where
  /-- The working directory. -/
  home : Location
  /-- The place that a path leads to, if it leads anywhere. Dots and links are followed. -/
  find? : String → Option Location
  /-- The text in a file, if it can be read. -/
  text? : String → Option String

/-- The file system of a disk. It has no links. -/
def Disk.fileSystem (d : Disk) : FileSystem :=
  ⟨d.home, fun path => (d.locate path).toOption, fun path => (d.readText path).toOption⟩

namespace FileSystem

/-- The rules in some files. -/
def load (fs : FileSystem) (files : List String) : RuleSet := .ofSources (files.filterMap fs.text?)

/-- A watched directory as changes in it are reported. Only the working directory matters. -/
def reported (fs : FileSystem) (dir : List Path.Component) : List Path.Component :=
  RuleWatcher.reportedAs (.empty fs.home) dir

/-- What is found on a disk is where a path leads. -/
theorem find?_fileSystem (d : Disk) (path : String) :
    d.fileSystem.find? path = (d.locate path).toOption := rfl

/-- The rules in files on a disk are those that are loaded from it. -/
theorem load_fileSystem (d : Disk) (files : List String) :
    d.fileSystem.load files = .load d files := rfl

end FileSystem

namespace RuleWatcher

/-- Start to watch. Every directory has to be found. -/
def watch? (fs : FileSystem) (files : List String) : Option RuleWatcher :=
  let dirs := directoriesOf files
  if dirs.all fun dir => (fs.find? (Path.ofComponents dir)).isSome then some ⟨files, dirs⟩ else none

/-- Whether a path that is reported is that of a rule file. A rule file whose directory cannot be
found is taken for every file of its name. -/
def sameFile (fs : FileSystem) (path : List Path.Component) (file : String) : Bool :=
  Path.components file == path ||
    match path.getLast? with
    | some (.name name) =>
      Path.fileName? file == some name &&
        match fs.find? (Path.ofComponents (Path.directory file)) with
        | some place => path.dropLast == .root :: place.map .name
        | none => true
    | _ => false

/-- The rules that are sent for a report. -/
def handle? (fs : FileSystem) (w : RuleWatcher) (r : FileReport) : Option RuleSet :=
  if r.kind.counts && r.paths.any fun path => w.files.any (sameFile fs path) then
    some (fs.load w.files)
  else none

/-- What is asked of a path that is reported for a name in a directory. -/
theorem sameFile_append_name (fs : FileSystem) (dir : List Path.Component) (name file : String) :
    sameFile fs (dir ++ [.name name]) file =
      (Path.components file == dir ++ [.name name] || (Path.fileName? file == some name &&
        match fs.find? (Path.ofComponents (Path.directory file)) with
        | some place => dir == .root :: place.map .name
        | none => true)) := by
  unfold sameFile
  rw [List.getLast?_concat, List.dropLast_concat]

/-- On a disk it is what decides whether the change concerns the rule file. -/
theorem sameFile_fileSystem (disk : Disk) (dir : List Path.Component) (name file : String) :
    sameFile disk.fileSystem (dir ++ [.name name]) file = concerns disk dir name file := by
  rw [sameFile_append_name, FileSystem.find?_fileSystem]
  unfold concerns
  cases disk.locate (Path.ofComponents (Path.directory file)) <;> rfl

/-- On a disk, a report that counts, of an entry of the directory under which changes at a location
are reported, is handled as the change of the file at this location. -/
theorem handle?_fileSystem {disk : Disk} {w : RuleWatcher} {l : Location}
    {dir : List Path.Component} {name : String}
    (hdir : w.reportDirectory? disk l.dropLast = some dir) (hname : l.getLast? = some name)
    {kind : ChangeKind} (hkind : kind.counts = true) :
    w.handle? disk.fileSystem ⟨kind, [dir ++ [.name name]]⟩ = w.onChange? disk l := by
  unfold handle? onChange? isRelevant
  rw [hkind, hdir, hname]
  simp [sameFile_fileSystem, FileSystem.load_fileSystem]

end RuleWatcher

end PagePreview
