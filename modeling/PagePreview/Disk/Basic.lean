import PagePreview.Disk.Path
import PagePreview.Text.Ascii
import PagePreview.Text.Utf8

/-!
# Files and directories

The files below the working directory. A path leads from place to place, from the working directory
or from the root: each of its pieces has to be looked for in a directory, so a slash after the name
of a file leads nowhere.
-/

namespace PagePreview

/-- Why a path leads to no file. -/
inductive DiskError where
  /-- There is nothing. -/
  | notFound
  /-- Something on the way is a file. -/
  | notDirectory
  /-- There is a directory. -/
  | isDirectory
  /-- A name is longer than 255 bytes, or the path longer than 4095. -/
  | nameTooLong
  /-- The path has a zero character. -/
  | zeroCharacter
  /-- The file is no text. -/
  | notText
  deriving DecidableEq, Repr

namespace DiskError

/-- What the system says about an error. -/
def text : DiskError → String
  | .notFound => "No such file or directory"
  | .notDirectory => "Not a directory"
  | .isDirectory => "Is a directory"
  | .nameTooLong => "File name too long"
  | .zeroCharacter => "file name contained an unexpected NUL byte"
  | .notText => "stream did not contain valid UTF-8"

/-- The kind of an error. -/
def kind : DiskError → String
  | .notFound => "NotFound"
  | .notDirectory => "NotADirectory"
  | .isDirectory => "IsADirectory"
  | .nameTooLong => "InvalidFilename"
  | .zeroCharacter => "InvalidInput"
  | .notText => "InvalidData"

/-- The number of an error that the system reports by number. -/
def number? : DiskError → Option Nat
  | .notFound => some 2
  | .notDirectory => some 20
  | .isDirectory => some 21
  | .nameTooLong => some 36
  | .zeroCharacter => none
  | .notText => none

/-- The wording of an error. -/
def message (e : DiskError) : String :=
  match e.number? with
  | some n => e.text ++ " (os error " ++ Ascii.decimal n ++ ")"
  | none => e.text

end DiskError

/-- What stands at a place. -/
inductive Node where
  /-- A file with its content. -/
  | file (content : Bytes)
  /-- A directory. -/
  | directory
  deriving DecidableEq, Repr

/-- A place on the disk: the names that lead there from the root. -/
abbrev Location := List String

/-- The files and directories below the working directory. Of what is above it, only the
directories that lead to it exist. -/
structure Disk where
  /-- The working directory. -/
  home : Location
  /-- What stands at the places below the working directory where there is something. -/
  nodes : List (Location × Node)
  deriving Repr

namespace Disk

/-- A disk without files. -/
def empty (home : Location) : Disk := ⟨home, []⟩

/-- What stands at a location. -/
def get? (d : Disk) (l : Location) : Option Node :=
  if l.isPrefixOf d.home then some .directory else (d.nodes.find? (·.1 == l)).map (·.2)

/-- Put something at a location, in the place of what is there. -/
def put (d : Disk) (l : Location) (n : Node) : Disk :=
  { d with nodes := (l, n) :: d.nodes.filter (·.1 != l) }

/-- Clear a location. -/
def clear (d : Disk) (l : Location) : Disk := { d with nodes := d.nodes.filter (·.1 != l) }

/-! ## Following paths -/

/-- The greatest length of a name in bytes. -/
def maxName : Nat := 255

/-- The greatest length of a path in bytes. -/
def maxPath : Nat := 4095

/-- Follow one piece of a path. -/
def enter (d : Disk) (l : Location) (piece : String) : Except DiskError Location :=
  match d.get? l with
  | some .directory =>
    if piece = "" ∨ piece = "." then .ok l
    else if piece = ".." then .ok l.dropLast
    else if piece.utf8ByteSize > maxName then .error .nameTooLong
    else if (d.get? (l ++ [piece])).isSome then .ok (l ++ [piece])
    else .error .notFound
  | some (.file _) => .error .notDirectory
  | none => .error .notFound

/-- Where a path leads to. -/
def locate (d : Disk) (path : String) : Except DiskError Location :=
  if path.toList.contains '\x00' then .error .zeroCharacter
  else if path = "" then .error .notFound
  else if path.utf8ByteSize > maxPath then .error .nameTooLong
  else
    let start := if path.toList.head? = some '/' then [] else d.home
    (Path.pieces path).foldlM d.enter start

/-- What a path leads to. -/
def lookup (d : Disk) (path : String) : Except DiskError Node :=
  match d.locate path with
  | .error e => .error e
  | .ok l =>
    match d.get? l with
    | some n => .ok n
    | none => .error .notFound

/-- Whether a path leads to a file. -/
def isFile (d : Disk) (path : String) : Bool :=
  match d.lookup path with
  | .ok (.file _) => true
  | _ => false

/-- The content of a file. -/
def read (d : Disk) (path : String) : Except DiskError Bytes :=
  match d.lookup path with
  | .ok (.file content) => .ok content
  | .ok .directory => .error .isDirectory
  | .error e => .error e

/-- The text in a file. -/
def readText (d : Disk) (path : String) : Except DiskError String :=
  match d.read path with
  | .error e => .error e
  | .ok content =>
    match Utf8.decode? content with
    | some s => .ok s
    | none => .error .notText

/-! ## Changing files -/

/-- The location that a path names if nothing stands in the way. -/
def target (d : Disk) (path : String) : Location :=
  (Path.components path).foldl (fun l c =>
    match c with
    | .root => []
    | .current => l
    | .parent => l.dropLast
    | .name s => l ++ [s]) d.home

/-- Make a directory and all above it; nothing if a file stands in the way. -/
def makeDirectories (d : Disk) (l : Location) : Option Disk :=
  (List.range l.length).foldlM (fun d n =>
    let here := l.take (n + 1)
    match d.get? here with
    | some .directory => some d
    | some (.file _) => none
    | none => some (d.put here .directory)) d

/-- Make a directory. What cannot be made is left out. -/
def makeDirectory (d : Disk) (path : String) : Disk := (d.makeDirectories (d.target path)).getD d

/-- Write a file, and make the directories that it needs. What cannot be written is left out. -/
def write (d : Disk) (path : String) (content : Bytes) : Disk :=
  let l := d.target path
  match d.makeDirectories l.dropLast with
  | none => d
  | some made => if made.get? l = some .directory then d else made.put l (.file content)

/-- Remove a file; a directory stays. -/
def remove (d : Disk) (path : String) : Disk :=
  match d.locate path with
  | .error _ => d
  | .ok l =>
    match d.get? l with
    | some (.file _) => d.clear l
    | _ => d

end Disk

end PagePreview
