import PagePreview.Text.Blank

/-!
# Paths

A path is a text. Its components are the pieces between slashes: empty pieces and single dots say
nothing, except that a dot in front of a relative path is kept, and a slash in front is the root.
-/

namespace PagePreview.Path

/-- A component of a path. -/
inductive Component where
  /-- The root. -/
  | root
  /-- The directory itself, in front of a relative path. -/
  | current
  /-- The directory above. -/
  | parent
  /-- An entry with a name. -/
  | name (s : String)
  deriving DecidableEq, Repr

/-- The pieces between slashes. -/
def pieces (path : String) : List String :=
  (Text.splitWhere (· == '/') path.toList).map String.ofList

/-- The component that a piece stands for inside a path. -/
def ofPiece? (piece : String) : Option Component :=
  if piece = "" ∨ piece = "." then none
  else if piece = ".." then some .parent
  else some (.name piece)

/-- The components of a path. -/
def components (path : String) : List Component :=
  let all := pieces path
  let inner := all.filterMap ofPiece?
  if path.toList.head? = some '/' then .root :: inner
  else if all.head? = some "." then .current :: inner
  else inner

/-- The name at the end of a path, if a name stands there. -/
def fileName? (path : String) : Option String :=
  match (components path).getLast? with
  | some (.name s) => some s
  | _ => none

/-- All components but the last. The root alone and the empty path have nothing above them. -/
def parent? (path : String) : Option (List Component) :=
  match (components path).getLast? with
  | none => none
  | some .root => none
  | some _ => some (components path).dropLast

/-- What follows the last dot of a name, unless the dot stands in front. -/
def nameExtension? (name : List Char) : Option (List Char) :=
  let reversed := name.reverse
  let stem := reversed.dropWhile (· != '.')
  if stem.length ≤ 1 then none else some (reversed.takeWhile (· != '.')).reverse

/-- The extension of the name at the end of a path. -/
def extension? (path : String) : Option String :=
  (fileName? path).bind fun name => (nameExtension? name.toList).map String.ofList

/-- A path seen from a directory. An absolute path stays as it is. -/
def join (dir path : String) : String :=
  if path.toList.head? = some '/' then path
  else if dir = "" ∨ dir.toList.getLast? = some '/' then dir ++ path
  else dir ++ "/" ++ path

end PagePreview.Path
