import PagePreview.Text.Ascii
import PagePreview.Text.Blank

/-!
# Numeric addresses in URLs

The host of a URL is an address of four bytes if its last part is a number. Parts may be decimal,
octal or hexadecimal, and the last one fills all bytes that are left. An address in brackets has
eight groups of sixteen bits, of which one run of zeros may be left out; the longest such run is
left out in print.
-/

namespace PagePreview.Address

/-! ## Four bytes -/

/-- The number that a part denotes, and whether it is too great for 32 bits. -/
def part? (cs : List Char) : Option Nat :=
  match cs with
  | [] => none
  | '0' :: x :: rest =>
    if x = 'x' ∨ x = 'X' then
      if rest.all fun c => (Ascii.hexValue? c).isSome then some (Ascii.valueOf 16 rest) else none
    else if (x :: rest).all fun c => '0' ≤ c && c ≤ '7' then some (Ascii.valueOf 8 (x :: rest))
    else none
  | cs => if cs.all Ascii.isDigit then some (Ascii.valueOf 10 cs) else none

/-- The parts between dots; one empty part at the end does not count. -/
def dotParts (cs : List Char) : List (List Char) :=
  let parts := Text.splitWhere (· == '.') cs
  if parts.getLast? = some [] then parts.dropLast else parts

/-- Whether a host is meant as an address: its last part is digits or a number. -/
def endsInNumber (cs : List Char) : Bool :=
  match (dotParts cs).getLast? with
  | some last => (!last.isEmpty && last.all Ascii.isDigit) || (part? last).isSome
  | none => false

/-- The address that parts denote: one byte each, and the last one the rest. -/
def ipv4? (cs : List Char) : Option Nat := do
  let parts := dotParts cs
  if parts.length > 4 then none
  let numbers ← parts.mapM part?
  let last ← numbers.getLast?
  let front := numbers.dropLast
  if front.any (255 < ·) ∨ last ≥ Nat.pow 256 (4 - front.length) then none
  else some (front.foldl (fun n x => n * 256 + x) 0 * Nat.pow 256 (4 - front.length) + last)

/-- The bytes of an address, separated by dots. -/
def ipv4Text (n : Nat) : List Char :=
  ([n / 0x1000000 % 256, n / 0x10000 % 256, n / 0x100 % 256, n % 256].map (Nat.toDigits 10)).foldr
    (fun part rest => if rest.isEmpty then part else part ++ '.' :: rest) []

/-! ## Eight groups -/

/-- A decimal byte without leading zeros. -/
def byte? (cs : List Char) : Option Nat :=
  if cs.isEmpty ∨ !cs.all Ascii.isDigit ∨ (cs.length > 1 ∧ cs.head? = some '0') then none
  else
    let n := Ascii.valueOf 10 cs
    if n < 256 then some n else none

/-- Four decimal bytes. -/
def dotted? (cs : List Char) : Option Nat :=
  match (Text.splitWhere (· == '.') cs).mapM byte? with
  | some [a, b, c, d] => some (((a * 256 + b) * 256 + c) * 256 + d)
  | _ => none

/-- A group of up to four hexadecimal digits. -/
def group? (cs : List Char) : Option Nat :=
  if cs.isEmpty ∨ cs.length > 4 ∨ cs.any fun c => (Ascii.hexValue? c).isNone then none
  else some (Ascii.valueOf 16 cs)

/-- Groups separated by colons; the last may be four decimal bytes where that is allowed. -/
def groups? (dottedEnd : Bool) : List (List Char) → Option (List Nat)
  | [] => some []
  | [last] =>
    if last.contains '.' then
      if dottedEnd then (dotted? last).map fun n => [n / 65536, n % 65536] else none
    else (group? last).map fun n => [n]
  | g :: rest => do
    let n ← group? g
    let ns ← groups? dottedEnd rest
    return n :: ns

/-- The groups of a side of the gap; the side may be empty. -/
def side? (dottedEnd : Bool) (cs : List Char) : Option (List Nat) :=
  if cs.isEmpty then some [] else groups? dottedEnd (Text.splitWhere (· == ':') cs)

/-- The text before and after the first double colon. -/
def splitGap : List Char → Option (List Char × List Char)
  | ':' :: ':' :: rest => some ([], rest)
  | c :: rest => (splitGap rest).map fun (front, back) => (c :: front, back)
  | [] => none

/-- The eight groups of an address. A gap stands for one group of zeros at least. -/
def ipv6? (cs : List Char) : Option (List Nat) :=
  match splitGap cs with
  | some (front, back) => do
    let a ← side? false front
    let b ← side? true back
    if a.length + b.length < 8 then some (a ++ List.replicate (8 - a.length - b.length) 0 ++ b)
    else none
  | none => do
    let a ← side? true cs
    if a.length = 8 then some a else none

/-- The length of the run of zeros at the front. -/
def zeroRun (groups : List Nat) : Nat := (groups.takeWhile (· == 0)).length

/-- The place and length of the first longest run of zeros. -/
def longestZeros : Nat → List Nat → Nat × Nat
  | _, [] => (0, 0)
  | at_, n :: rest =>
    let (place, length) := longestZeros (at_ + 1) rest
    let here := zeroRun (n :: rest)
    if here ≥ length then (at_, here) else (place, length)

/-- Groups separated by colons. -/
def groupsText : List Nat → List Char
  | [] => []
  | [n] => Nat.toDigits 16 n
  | n :: rest => Nat.toDigits 16 n ++ ':' :: groupsText rest

/-- The printed form of eight groups. A single zero is not left out. -/
def ipv6Text (groups : List Nat) : List Char :=
  let (place, length) := longestZeros 0 groups
  if length < 2 then groupsText groups
  else groupsText (groups.take place) ++ [':', ':'] ++ groupsText (groups.drop (place + length))

end PagePreview.Address
