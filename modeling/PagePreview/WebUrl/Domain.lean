import PagePreview.Unicode.Alphanumeric
import PagePreview.Unicode.Direction
import PagePreview.Unicode.Normalization
import PagePreview.WebUrl.DomainMapping
import PagePreview.WebUrl.Punycode

/-!
# Domain names

A domain name is mapped and normalised, cut at its dots, and each label that is not ASCII is written
in its ASCII form. A label may not begin with a mark, its joiners have to stand where they join, and
if any label is written from right to left all labels have to keep the rules of direction.
-/

namespace PagePreview.Domain

open Unicode

/-- A character that no domain name may hold, whatever it is mapped from. -/
def isForbidden (n : Nat) : Bool :=
  n ≤ 0x20 || n == 0x7F || (n < 0x80 && "#/:<>?@[\\]^|%".toList.contains (Char.ofNat n))

/-- Most characters of a label that is not ASCII, as the cost of its ASCII form grows with their
square. -/
def maxLabel : Nat := 1000

/-- Most characters of an ASCII form after what announces it. -/
def maxWritten : Nat := 2000

/-- What announces the ASCII form of a label. -/
def asciiMark : List Nat := "xn--".toList.map Char.toNat

/-- A combining mark, of any version that the mapping knows. -/
def isMark (n : Nat) : Bool :=
  marks.contains n || recentMarks.contains n || recentSpacingMarks.contains n ||
    Intervals.contains [(0x5C8, 0x5C8), (0xB53, 0xB54)] n

/-- A character that joins the next one. -/
def joinsNext (n : Nat) : Bool := leftJoining.contains n || dualJoining.contains n

/-- A character that joins the one before. -/
def joinsLast (n : Nat) : Bool := rightJoining.contains n || dualJoining.contains n

/-- The first character that is not passed over in joining. -/
def firstJoining (s : List Nat) : Option Nat := s.find? fun n => !transparent.contains n

/-- Whether every joiner stands where it may; the characters before it stand in reverse. After a
virama both may stand, and the non-joiner also between two letters that would join. -/
def joinersFit : List Nat → List Nat → Bool
  | _, [] => true
  | before, n :: rest =>
    let afterVirama := match before with
      | m :: _ => combiningClass m == 9
      | [] => false
    let fits :=
      if n = 0x200D then afterVirama
      else if n = 0x200C then
        afterVirama ||
          ((firstJoining before).any joinsNext && (firstJoining rest).any joinsLast)
      else true
    fits && joinersFit (n :: before) rest

/-- Whether a label has a character written from right to left. -/
def hasRightToLeft (label : List Nat) : Bool :=
  label.any fun n => rightToLeft.contains n || arabicNumbers.contains n

/-- The last character that is no mark. -/
def lastLetter (label : List Nat) : Option Nat :=
  label.reverse.find? fun n => !spacelessMarks.contains n

/-- The rules of direction for one label. A label keeps to the direction of its first letter, ends
in a letter or digit of it, and does not mix two kinds of digits from right to left. -/
def keepsDirection (label : List Nat) : Bool :=
  match label with
  | [] => true
  | first :: _ =>
    if rightToLeft.contains first then
      label.all (fun n => !leftToRight.contains n) &&
        (lastLetter label).any (fun n =>
          rightToLeft.contains n || arabicNumbers.contains n || europeanNumbers.contains n) &&
        !(label.any europeanNumbers.contains && label.any arabicNumbers.contains)
    else
      leftToRight.contains first && !hasRightToLeft label &&
        (lastLetter label).any fun n => leftToRight.contains n || europeanNumbers.contains n

/-- Map every character and compose the result. -/
def mapped? (s : List Nat) : Option (List Nat) :=
  (s.mapM image?).map fun parts => normalForm parts.flatten

/-- The characters of a label, decoded if it is in its ASCII form. Such a label has to hold a
character outside ASCII and to be what mapping and composing would have left. -/
def decodeLabel? (label : List Nat) : Option (List Nat) :=
  if label.take 4 = asciiMark then
    if label.length > maxWritten + 4 then none
    else match Punycode.decode? ((label.drop 4).map Char.ofNat) with
    | none => none
    | some decoded =>
      if decoded.all (· < 0x80) then none
      else if mapped? decoded = some decoded then some decoded
      else none
  else some label

/-- Whether a decoded label is valid, direction apart. -/
def isValidLabel (label : List Nat) : Bool :=
  (label.length ≤ maxLabel || label.all (· < 0x80)) && !(label.head?.any isMark) &&
    label.all (fun n => !isForbidden n) && joinersFit [] label

/-- The ASCII form of a label. -/
def encodeLabel (label : List Nat) : List Char :=
  if label.all (· < 0x80) then label.map Char.ofNat else "xn--".toList ++ Punycode.encode label

/-- Put a dot between labels. -/
def joinDots : List (List Char) → List Char
  | [] => []
  | [l] => l
  | l :: rest => l ++ '.' :: joinDots rest

/-- The ASCII form of a domain name, if it is one. -/
def toAscii? (name : List Char) : Option (List Char) := do
  let points ← mapped? (name.map Char.toNat)
  let labels ← (Text.splitWhere (· == 0x2E) points).mapM decodeLabel?
  let directed := !labels.any hasRightToLeft || labels.all keepsDirection
  if labels.all isValidLabel && directed then some (joinDots (labels.map encodeLabel)) else none

end PagePreview.Domain
