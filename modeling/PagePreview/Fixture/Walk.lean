import PagePreview.Disk.Path

/-!
# Cleaning a path component by component

The slashes in front of a path are dropped, and its components are walked through. A name is put
behind what is clean so far, where a name that began with a slash would take the place of all of it;
a single dot is passed over; and a path with any other component is refused.
-/

namespace PagePreview

/-- The path without the slashes in front of it. -/
def Path.trimFront (path : String) : String := String.ofList (path.toList.dropWhile (· == '/'))

namespace Fixture

/-- Put a component behind what is clean so far. -/
def put? (clean : String) : Path.Component → Option String
  | .name name => some (Path.join clean name)
  | .current => some clean
  | .parent => none
  | .root => none

/-- A path cleaned component by component. If nothing is clean in the end, there is no path. -/
def walkRelative? (path : String) : Option String := do
  let clean ← (Path.components (Path.trimFront path)).foldlM put? ""
  if clean.isEmpty then none else some clean

end Fixture

end PagePreview
