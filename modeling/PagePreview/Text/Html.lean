/-!
# Text inside HTML

The five characters that can end a text node or an attribute value are written as entities, so an
escaped text never opens a tag and never leaves a quoted attribute.
-/

namespace PagePreview.Html

/-- The entity for a character with a meaning in markup; any other character stands for itself. -/
def escapeChar (c : Char) : List Char :=
  if c = '&' then "&amp;".toList
  else if c = '\x22' then "&quot;".toList
  else if c = '\x27' then "&#39;".toList
  else if c = '<' then "&lt;".toList
  else if c = '>' then "&gt;".toList
  else [c]

/-- Escape a text for use in a text node or a quoted attribute. -/
def escape (text : String) : String := String.ofList (text.toList.flatMap escapeChar)

/-- A text is escaped character by character. -/
theorem toList_escape (text : String) : (escape text).toList = text.toList.flatMap escapeChar := by
  simp [escape]

end PagePreview.Html
