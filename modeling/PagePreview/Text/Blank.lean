/-!
# White space, words and lines

White space is the Unicode property White_Space. Words are the maximal runs without it; lines end
at a line feed, which may follow one carriage return that then belongs to the line end.
-/

namespace PagePreview.Text

/-- The property White_Space. -/
def isBlank (c : Char) : Bool :=
  let n := c.toNat
  (0x9 ≤ n && n ≤ 0xD) || n == 0x20 || n == 0x85 || n == 0xA0 || n == 0x1680 ||
    (0x2000 ≤ n && n ≤ 0x200A) || n == 0x2028 || n == 0x2029 || n == 0x202F || n == 0x205F ||
    n == 0x3000

/-- Cut a list at every element that satisfies the test; the separators are dropped. -/
def splitWhere {α : Type} (p : α → Bool) : List α → List (List α)
  | [] => [[]]
  | x :: rest =>
    if p x then [] :: splitWhere p rest
    else match splitWhere p rest with
      | [] => [[x]]
      | piece :: pieces => (x :: piece) :: pieces

/-- The non-empty pieces between white space. -/
def words (text : String) : List String :=
  ((splitWhere isBlank text.toList).filter (!·.isEmpty)).map String.ofList

/-- Drop one carriage return at the end. -/
def dropReturn : List Char → List Char
  | [] => []
  | ['\r'] => []
  | c :: rest => c :: dropReturn rest

/-- The lines of a text whose characters are given: a final piece is a line only if it is not
empty, and keeps a carriage return at its end because no line feed follows. -/
def linesOf : List (List Char) → List (List Char)
  | [] => []
  | [final] => if final.isEmpty then [] else [final]
  | line :: rest => dropReturn line :: linesOf rest

/-- The lines of a text. -/
def lines (text : String) : List String :=
  (linesOf (splitWhere (· == '\n') text.toList)).map String.ofList

end PagePreview.Text
