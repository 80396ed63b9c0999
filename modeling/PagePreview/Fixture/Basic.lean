import PagePreview.Disk.Path
import PagePreview.Text.Ascii

/-!
# Requests for fixtures

A path below `/test/` or `/mock/`, in any case, asks for a fixture if the name at its end has the
extension `json` or `js`, in any case.
-/

namespace PagePreview

/-- What a fixture is. -/
inductive FixtureKind where
  /-- Data, which is sent as it is. -/
  | json
  /-- A script, which is run. -/
  | script
  deriving DecidableEq, Repr

/-- A fixture that is asked for. -/
structure FixtureRef where
  /-- The path below the place where fixtures are. -/
  path : String
  /-- What it is. -/
  kind : FixtureKind
  deriving DecidableEq, Repr

namespace FixtureRef

/-- What follows a text at the front, which may be written in another case. -/
def dropFront? (front : String) (cs : List Char) : Option (List Char) :=
  if (cs.take front.length).map Ascii.lower = front.toList then some (cs.drop front.length)
  else none

/-- The kind that an extension stands for. -/
def kindOf? (extension : String) : Option FixtureKind :=
  if Ascii.sameIgnoringCase extension "json" then some .json
  else if Ascii.sameIgnoringCase extension "js" then some .script
  else none

/-- The fixture that a path asks for. -/
def ofPath? (path : String) : Option FixtureRef := do
  let rest ← ["/test/", "/mock/"].findSome? fun front => dropFront? front path.toList
  let below := String.ofList rest
  let kind ← kindOf? (← Path.extension? below)
  return ⟨below, kind⟩

end FixtureRef

end PagePreview
