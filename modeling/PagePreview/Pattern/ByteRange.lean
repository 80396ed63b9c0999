import PagePreview.Pattern.CharSet

/-!
# Byte sequences of a set

The characters of a set, encoded in UTF-8, are the texts of some sequences of byte intervals. The
sequences of a set stand in ascending order, and no two of them have a text in common.
-/

namespace PagePreview.Pattern

/-- An interval of bytes. -/
abbrev ByteRange := Nat × Nat

/-- The intervals of code points that are encoded in one, two, three and four bytes. -/
def encodedLengths : List (Nat × Nat × Nat) :=
  [(0, 0x7F, 1), (0x80, 0x7FF, 2), (0x800, 0xD7FF, 3), (0xE000, 0xFFFF, 3), (0x10000, 0x10FFFF, 4)]

/-- The lead byte's tag for a sequence of so many bytes. -/
def leadTag (length : Nat) : Nat :=
  if length = 1 then 0 else if length = 2 then 0xC0 else if length = 3 then 0xE0 else 0xF0

/-- Byte sequences for the values from `low` to `high` that have `count` groups of six bits below
the first byte. An interval that does not fill its lower groups is cut where they fill. -/
def sequences : Nat → Nat → Nat → Nat → List (List ByteRange)
  | 0, tag, low, high => [[(tag + low, tag + high)]]
  | count + 1, tag, low, high =>
    let unit := Nat.pow 64 (count + 1)
    let (a, b) := (low / unit, high / unit)
    let (x, y) := (low % unit, high % unit)
    let tails (a : Nat) (x y : Nat) : List (List ByteRange) :=
      (sequences count 0x80 x y).map ((tag + a, tag + a) :: ·)
    let whole (a b : Nat) : List (List ByteRange) :=
      if a ≤ b then [(tag + a, tag + b) :: List.replicate (count + 1) (0x80, 0xBF)] else []
    if a = b then
      if x = 0 ∧ y = unit - 1 then whole a a else tails a x y
    else
      let front := if x = 0 then [] else tails a x (unit - 1)
      let back := if y = unit - 1 then [] else tails b 0 y
      let first := if x = 0 then a else a + 1
      let last := if y = unit - 1 then b + 1 else b
      front ++ (if first < last then whole first (last - 1) else []) ++ back

/-- The byte sequences of a set. -/
def byteSequences (s : CharSet) : List (List ByteRange) :=
  s.flatMap fun r => encodedLengths.flatMap fun (low, high, length) =>
    let a := max r.1 low
    let b := min r.2 high
    if a ≤ b then sequences (length - 1) (leadTag length) a b else []

end PagePreview.Pattern
