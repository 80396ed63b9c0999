import PagePreview.Rule.Loading

/-!
# Watching rule files

The directories that hold the rule files are watched, so that a file may also appear or be replaced.
A change is reported as the watched directory, as it was registered, with the name of the file. It
concerns a rule file if it is reported under the rule file's own path, or under the same name in
the place that the rule file's directory stands for.
-/

namespace PagePreview

namespace Path

/-- The rank of a kind of component. -/
def Component.rank : Component → Nat
  | .root => 0
  | .current => 1
  | .parent => 2
  | .name _ => 3

/-- The order of components: by kind, then by name. -/
def Component.before (a b : Component) : Bool :=
  match a, b with
  | .name s, .name t => s < t
  | a, b => a.rank < b.rank

/-- The order of paths: component by component. -/
def before : List Component → List Component → Bool
  | [], [] => false
  | [], _ :: _ => true
  | _ :: _, [] => false
  | a :: as, b :: bs => a.before b || (a == b && before as bs)

/-- Put a path at its place in the order; a path that is there already stays alone. -/
def insertOrdered (p : List Component) : List (List Component) → List (List Component)
  | [] => [p]
  | q :: rest =>
    if p = q then q :: rest
    else if before p q then p :: q :: rest
    else q :: insertOrdered p rest

/-- The text of a component. -/
def Component.text : Component → String
  | .root => ""
  | .current => "."
  | .parent => ".."
  | .name s => s

/-- The text of a path of components. -/
def ofComponents (cs : List Component) : String :=
  if cs = [.root] then "/" else String.intercalate "/" (cs.map Component.text)

/-- The directory that a path stands in. -/
def directory (path : String) : List Component :=
  match parent? path with
  | some [] => [.current]
  | some cs => cs
  | none => [.current]

end Path

/-- The rule files that are watched, and where. -/
structure RuleWatcher where
  /-- The rule files. -/
  files : List String
  /-- The watched directories, in the order in which they were registered. -/
  directories : List (List Path.Component)

namespace RuleWatcher

/-- The directories to watch for some files: each once, in order. -/
def directoriesOf (files : List String) : List (List Path.Component) :=
  (files.map Path.directory).foldl (fun dirs d => Path.insertOrdered d dirs) []

/-- Start to watch. Every directory has to exist. -/
def start? (disk : Disk) (files : List String) : Option RuleWatcher :=
  let dirs := directoriesOf files
  if dirs.all fun d => (disk.lookup (Path.ofComponents d)).toOption.isSome then some ⟨files, dirs⟩
  else none

/-- A directory as changes in it are reported: seen from the root, with the steps upwards that it
was registered with. -/
def reportedAs (disk : Disk) (dir : List Path.Component) : List Path.Component :=
  match dir with
  | .root :: _ => dir
  | _ => .root :: disk.home.map .name ++ dir.filter (· != .current)

/-- The directory under which a change at a location is reported. Of several ways to write one
directory, the one that was registered last counts. -/
def reportDirectory? (disk : Disk) (w : RuleWatcher) (l : Location) :
    Option (List Path.Component) :=
  (w.directories.reverse.find? fun d =>
    match disk.locate (Path.ofComponents d) with
    | .ok place => place == l
    | .error _ => false).map (reportedAs disk)

/-- Whether a change that is reported for a name in a directory concerns a rule file. -/
def concerns (disk : Disk) (dir : List Path.Component) (name file : String) : Bool :=
  Path.components file == dir ++ [.name name] ||
    (Path.fileName? file == some name &&
      match disk.locate (Path.ofComponents (Path.directory file)) with
      | .ok place => dir == .root :: place.map .name
      | .error _ => true)

/-- Whether a change of the file at a location concerns one of the rule files. -/
def isRelevant (disk : Disk) (w : RuleWatcher) (l : Location) : Bool :=
  match w.reportDirectory? disk l.dropLast, l.getLast? with
  | some dir, some name => w.files.any (concerns disk dir name)
  | _, _ => false

/-- The rules that are sent when the file at a location has changed. -/
def onChange? (disk : Disk) (w : RuleWatcher) (l : Location) : Option RuleSet :=
  if w.isRelevant disk l then some (RuleSet.load disk w.files) else none

/-- Whether a file has been written or removed at a location. -/
def isFileChange (before after : Disk) (l : Location) : Bool :=
  match after.get? l with
  | some (.file _) => true
  | found => found != before.get? l

/-- The rules that are sent after a path has been written to or removed. -/
def ruleChange? (before after : Disk) (w : RuleWatcher) (path : String) : Option RuleSet :=
  let l := after.target path
  if isFileChange before after l then w.onChange? after l else none

end RuleWatcher

end PagePreview
