import PagePreview.Unicode.Folding

/-!
# Sets of characters

A set is a list of intervals of code points in ascending order, no two of which touch. Surrogates,
which are no characters, may lie inside an interval and mean nothing.
-/

namespace PagePreview.Pattern

/-- A set of characters. -/
abbrev CharSet := Unicode.Intervals

namespace CharSet

/-- The greatest code point. -/
def maxPoint : Nat := 0x10FFFF

/-- Whether a character belongs to a set. -/
def has (s : CharSet) (c : Char) : Bool := Unicode.Intervals.contains s c.toNat

/-- Join intervals that overlap or touch; the intervals come in ascending order of their lower
ends. -/
def join : CharSet → CharSet
  | [] => []
  | [r] => [r]
  | (a, b) :: (c, d) :: rest =>
    if c ≤ b + 1 then join ((a, max b d) :: rest) else (a, b) :: join ((c, d) :: rest)
termination_by s => s.length

/-- The set of all points of some intervals, in whatever order they are given. -/
def ofIntervals (s : List (Nat × Nat)) : CharSet := join (s.mergeSort fun a b => a.1 ≤ b.1)

/-- The set of one character. -/
def single (c : Char) : CharSet := [(c.toNat, c.toNat)]

/-- Every character. -/
def full : CharSet := [(0, maxPoint)]

/-- The union of two sets. -/
def union (s t : CharSet) : CharSet := ofIntervals (s ++ t)

/-- The gaps from a point on; the intervals come in ascending order of their lower ends. -/
def gaps : Nat → CharSet → CharSet
  | from_, [] => if from_ ≤ maxPoint then [(from_, maxPoint)] else []
  | from_, (a, b) :: rest =>
    if from_ < a then (from_, a - 1) :: gaps (max from_ (b + 1)) rest
    else gaps (max from_ (b + 1)) rest

/-- Every character outside a set. -/
def complement (s : CharSet) : CharSet := gaps 0 s

/-- The characters in both sets. -/
def inter (s t : CharSet) : CharSet := complement (union (complement s) (complement t))

/-- The characters in the first set only. -/
def diff (s t : CharSet) : CharSet := inter s (complement t)

/-- The characters in exactly one of the sets. -/
def symmDiff (s t : CharSet) : CharSet := union (diff s t) (diff t s)

/-- The set together with the other cases of its members. -/
def foldCase (s : CharSet) : CharSet := ofIntervals (Unicode.closeUnderCase s)

/-- The set together with the other cases of its ASCII members. -/
def foldAsciiCase (s : CharSet) : CharSet :=
  ofIntervals (s ++ ((List.range 26).flatMap fun i =>
    (if Unicode.Intervals.contains s (0x41 + i) then [(0x61 + i, 0x61 + i)] else []) ++
      (if Unicode.Intervals.contains s (0x61 + i) then [(0x41 + i, 0x41 + i)] else [])))

/-- Whether every member is an ASCII character. -/
def isAscii (s : CharSet) : Bool := List.all s fun r => r.2 < 0x80

end CharSet

end PagePreview.Pattern
