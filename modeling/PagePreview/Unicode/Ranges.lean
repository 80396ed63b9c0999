import PagePreview.Text.Ascii
import PagePreview.Text.Blank

/-!
# Tables of code points

A table is written as text: hexadecimal code points and intervals `low-high`, separated by blanks
and line ends. An interval that ends in `/2` holds every second code point.
-/

namespace PagePreview.Unicode

/-- Intervals of code points, both ends included. -/
abbrev Intervals := List (Nat × Nat)

/-- A table with the names it goes by, in lower case and without blanks, hyphens and underscores. -/
abbrev NamedRanges := List String × String

/-- Whether a code point lies in one of the intervals. -/
def Intervals.contains (s : Intervals) (n : Nat) : Bool := s.any fun r => r.1 ≤ n && n ≤ r.2

/-- The parts of a list before and after the first occurrence of an element. -/
def splitAt {α : Type} [BEq α] (x : α) (xs : List α) : List α × List α :=
  let (front, back) := xs.span (· != x)
  (front, back.drop 1)

/-- The number that hexadecimal digits denote. -/
def hexNumber (digits : List Char) : Nat := Ascii.valueOf 16 digits

/-- One entry of a table: its ends and the distance between its members. -/
def intervalOf (entry : List Char) : Nat × Nat × Nat :=
  let (ends, step) := splitAt '/' entry
  let (low, high) := splitAt '-' ends
  (hexNumber low, if high.isEmpty then hexNumber low else hexNumber high,
    if step.isEmpty then 1 else 2)

/-- The members of an entry. -/
def pointsOf : Nat × Nat × Nat → List Nat
  | (low, high, step) => (List.range ((high - low) / step + 1)).map fun i => low + i * step

/-- The intervals of an entry. -/
def intervalsOf : Nat × Nat × Nat → Intervals
  | (low, high, step) =>
    if step = 1 then [(low, high)] else (pointsOf (low, high, step)).map fun n => (n, n)

/-- The entries of a table. -/
def entries (text : String) : List (List Char) :=
  (Text.splitWhere (fun c => c == ' ' || c == '\n') text.toList).filter (!·.isEmpty)

/-- The intervals of a table. -/
def readTable (text : String) : Intervals :=
  (entries text).flatMap fun entry => intervalsOf (intervalOf entry)

/-- The table with a given name. -/
def named? (tables : List NamedRanges) (name : String) : Option Intervals :=
  (tables.find? fun t => t.1.contains name).map fun t => readTable t.2

end PagePreview.Unicode
