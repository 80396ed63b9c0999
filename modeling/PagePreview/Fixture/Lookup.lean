import PagePreview.Disk.Basic
import PagePreview.Json.Parser

/-!
# Finding fixtures

A path that comes from a request is made of plain names before it is joined to a root, so it cannot
lead out of the root.
-/

namespace PagePreview.Fixture

/-- The plain names of a path. Steps upwards are refused, and a path without names is none. -/
def plainNames? (path : String) : Option (List String) :=
  let names := (Path.pieces path).filter fun piece => piece != "" && piece != "."
  if names.isEmpty ∨ names.contains ".." then none else some names

/-- A path of plain names, which leads from a root to a place below it. -/
def safeRelative? (path : String) : Option String :=
  (plainNames? path).map (String.intercalate "/")

/-- The first file that a path leads to from the directories. -/
def findIn? (disk : Disk) (dirs : List String) (path : String) : Option String :=
  (dirs.map fun dir => Path.join dir path).find? disk.isFile

/-- The value in a data file. A file that is no JSON text holds an empty object. -/
def loadJson (disk : Disk) (path : String) : Json :=
  (((disk.readText path).toOption).bind Json.parse?).getD Json.empty

end PagePreview.Fixture
