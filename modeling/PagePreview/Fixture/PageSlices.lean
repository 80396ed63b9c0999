import PagePreview.Fixture.Page
import PagePreview.Text.Utf8

/-!
# Pages, read in slices

A path is held as bytes. To read a page from it, the bytes are cut where the slashes stand, and the
name of the page four bytes before its end, where `.tpl` would begin. An offset in bytes may lie
inside a character: there a text cannot be cut.
-/

namespace PagePreview

namespace Text

/-- An offset in bytes at which a text cannot be cut: it lies inside a character or behind the
end. -/
structure BadCut where
  /-- The offset. -/
  offset : Nat
  deriving DecidableEq, Repr

/-- Cut a text in two at an offset in bytes. -/
def cutAt (text : String) (offset : Nat) : Except BadCut (String × String) :=
  let bytes := Utf8.encode text
  match Utf8.decode? (bytes.take offset), Utf8.decode? (bytes.drop offset) with
  | some front, some back => if offset ≤ bytes.length then .ok (front, back) else .error ⟨offset⟩
  | _, _ => .error ⟨offset⟩

/-- The text before the first slash and the text after it, cut where the byte of the slash is. -/
def splitSlash (text : String) : Except BadCut (Option (String × String)) := do
  let bytes := Utf8.encode text
  let place := bytes.idxOf 0x2F
  if place = bytes.length then return none
  let (front, _) ← cutAt text place
  let (_, back) ← cutAt text (place + 1)
  return some (front, back)

end Text

namespace PageRef

open Text (BadCut cutAt splitSlash)

/-- Drop `.tpl` from the end. A name that is shorter, or cannot be cut four bytes before its end,
has no such end. -/
def cutTemplateSuffix (name : String) : String :=
  let length := (Utf8.encode name).length
  if length < 4 then name
  else match cutAt name (length - 4) with
    | .ok (stem, suffix) => if Ascii.sameIgnoringCase suffix ".tpl" then stem else name
    | .error _ => name

/-- The page that a path names, read in slices. -/
def ofSlices? (path : String) : Except BadCut (Option PageRef) := do
  if (Utf8.encode path).head? = some 0x2F then
    let (_, rest) ← cutAt path 1
    match ← splitSlash rest with
    | none => return none
    | some (name, rest) =>
      if name.isEmpty || !name.toList.all isNamespaceChar then return none
      match ← splitSlash rest with
      | none => return none
      | some (keyword, page) =>
        if Ascii.sameIgnoringCase keyword "page" then
          return some ⟨name, cutTemplateSuffix page⟩
        else return none
  else return none

end PageRef

end PagePreview
