import PagePreview.Json.Basic
import PagePreview.Text.Ascii

/-!
# Reading JSON

The grammar is that of the standard, with nothing added: no comment, no trailing comma, no byte
order mark. Arrays and objects nest at most 127 deep, a surrogate escape has to be one of a pair,
and of several members with one key the last counts.

A number with a fraction or an exponent, and an integer outside 64 bits, is read as a double: the
leading digits that fit 64 bits make an integer, which is then scaled by one rounded power of ten
(by several when the exponent is below that of the least normal double). A number beyond the
finite doubles is refused.
-/

namespace PagePreview.Json

/-- The greatest number that fits 64 bits. -/
def maxWord : Nat := 0xFFFFFFFFFFFFFFFF

/-- The rounded power of ten with an exponent of at most 308. -/
def powerOfTen (n : Nat) : Binary64 := (Binary64.ofNat? (Nat.pow 10 n)).getD Binary64.zero

/-- Scale by a power of ten, in steps of `10 ^ -308` while the exponent is too small. -/
def scale (x : Binary64) (exponent : Int) : Nat → Option Binary64
  | 0 => some Binary64.zero
  | steps + 1 =>
    if exponent.natAbs ≤ 308 then
      if exponent ≥ 0 then x.mul? (powerOfTen exponent.natAbs)
      else x.div? (powerOfTen exponent.natAbs)
    else if x.significand = 0 then some x
    else if exponent ≥ 0 then none
    else match x.div? (powerOfTen 308) with
      | none => none
      | some y => scale y (exponent + 308) steps

/-- Digits of a number as they are taken in: the part that fits 64 bits, and its power of ten. -/
structure Intake where
  /-- The number read so far. -/
  value : Nat
  /-- The power of ten it is to be scaled by. -/
  exponent : Int
  /-- A digit did not fit, so all later ones are left out. -/
  full : Bool

/-- Take one digit before the point: once full it only counts as a zero. -/
def Intake.whole (t : Intake) (c : Char) : Intake :=
  let next := t.value * 10 + (c.toNat - 48)
  if t.full ∨ next > maxWord then ⟨t.value, t.exponent + 1, true⟩ else ⟨next, t.exponent, false⟩

/-- Take one digit after the point: once it does not fit it is dropped with all that follow. -/
def Intake.fraction (t : Intake) (c : Char) : Intake :=
  let next := t.value * 10 + (c.toNat - 48)
  if t.full ∨ next > maxWord then { t with full := true } else ⟨next, t.exponent - 1, false⟩

/-- The exponent is held to 32 bits; one that does not fit makes the number zero or too great. -/
def maxExponentDigits : Nat := 0x7FFFFFFF

/-- The double with the given digits. Digits after the point are taken in even when the digits
before it already were too many, as long as the 64 bits hold them. -/
def realOf (whole fraction : List Char) (exponent : Int) (negative : Bool) : Option Json :=
  let t := whole.foldl Intake.whole ⟨0, 0, false⟩
  let t := fraction.foldl Intake.fraction { t with full := false }
  let result :=
    if exponent.natAbs > maxExponentDigits then
      if t.value ≠ 0 ∧ exponent > 0 then none else some Binary64.zero
    else
      match Binary64.ofNat? t.value with
      | none => none
      | some x => scale x (t.exponent + exponent) (exponent.natAbs / 308 + fraction.length + 3)
  result.map fun x => .real (x.withSign negative)

/-- An integer literal: kept exactly within 64 bits, and a double beyond. Negative zero is a
double, because no integer has that sign. -/
def integerOf (whole : List Char) (negative : Bool) : Option Json :=
  let n := Ascii.valueOf 10 whole
  if negative then
    if n = 0 ∨ n > 0x8000000000000000 then realOf whole [] 0 true else some (.int (-(n : Int)))
  else if n > maxWord then realOf whole [] 0 false
  else some (.int n)

/-- The exponent part of a number, if there is one; nothing when it has no digit. -/
def exponentPart : List Char → Option (Option Int × List Char)
  | c :: rest =>
    if c = 'e' ∨ c = 'E' then
      let (negative, rest) := match rest with
        | '+' :: rest => (false, rest)
        | '-' :: rest => (true, rest)
        | _ => (false, rest)
      let (digits, rest) := rest.span Ascii.isDigit
      if digits.isEmpty then none
      else
        let n : Int := Ascii.valueOf 10 digits
        some (some (if negative then -n else n), rest)
    else some (none, c :: rest)
  | [] => some (none, [])

/-- A number without its minus sign. -/
def magnitude (negative : Bool) (cs : List Char) : Option (Json × List Char) :=
  let (whole, rest) := cs.span Ascii.isDigit
  if whole.isEmpty ∨ (whole.head? = some '0' ∧ whole.length > 1) then none
  else
    let point : Option (Option (List Char) × List Char) := match rest with
      | '.' :: rest =>
        let (fraction, rest) := rest.span Ascii.isDigit
        if fraction.isEmpty then none else some (some fraction, rest)
      | _ => some (none, rest)
    match point with
    | none => none
    | some (fraction, rest) =>
      match exponentPart rest with
      | none => none
      | some (exponent, rest) =>
        let value :=
          if fraction.isNone ∧ exponent.isNone then integerOf whole negative
          else realOf whole (fraction.getD []) (exponent.getD 0) negative
        value.map fun v => (v, rest)

/-- The white space of JSON. -/
def isSpace (c : Char) : Bool := c == ' ' || c == '\n' || c == '\t' || c == '\r'

/-- Four hexadecimal digits. -/
def fourHex : List Char → Option (Nat × List Char)
  | a :: b :: c :: d :: rest => do
    let a ← Ascii.hexValue? a
    let b ← Ascii.hexValue? b
    let c ← Ascii.hexValue? c
    let d ← Ascii.hexValue? d
    return (((a * 16 + b) * 16 + c) * 16 + d, rest)
  | _ => none

/-- The character of a `\u` escape, whose first four digits follow. -/
def unicodeEscape (cs : List Char) : Option (Char × List Char) :=
  match fourHex cs with
  | none => none
  | some (n, rest) =>
    if 0xD800 ≤ n ∧ n < 0xDC00 then
      match rest with
      | '\\' :: 'u' :: rest =>
        match fourHex rest with
        | some (m, rest) =>
          if 0xDC00 ≤ m ∧ m < 0xE000 then
            some (Char.ofNat (0x10000 + (n - 0xD800) * 0x400 + (m - 0xDC00)), rest)
          else none
        | none => none
      | _ => none
    else if 0xDC00 ≤ n ∧ n < 0xE000 then none
    else some (Char.ofNat n, rest)

/-- The character of a one-letter escape. -/
def shortEscape (c : Char) : Option Char :=
  if c = '\x22' ∨ c = '\\' ∨ c = '/' then some c
  else if c = 'b' then some '\x08'
  else if c = 'f' then some '\x0c'
  else if c = 'n' then some '\n'
  else if c = 'r' then some '\r'
  else if c = 't' then some '\t'
  else none

/-- The rest of a string after its opening quote; the characters read stand in reverse. -/
def stringTail : Nat → List Char → List Char → Option (String × List Char)
  | 0, _, _ => none
  | fuel + 1, acc, cs =>
    match cs with
    | [] => none
    | '\x22' :: rest => some (String.ofList acc.reverse, rest)
    | '\\' :: 'u' :: rest =>
      match unicodeEscape rest with
      | none => none
      | some (c, rest) => stringTail fuel (c :: acc) rest
    | '\\' :: c :: rest =>
      match shortEscape c with
      | none => none
      | some c => stringTail fuel (c :: acc) rest
    | c :: rest => if c.toNat < 0x20 then none else stringTail fuel (c :: acc) rest

/-- Drop leading white space. -/
def skipSpace (cs : List Char) : List Char := cs.dropWhile isSpace

mutual

/-- A value, with leading white space; `depth` is how many more levels may open. -/
def value : Nat → Nat → List Char → Option (Json × List Char)
  | 0, _, _ => none
  | fuel + 1, depth, cs =>
    match skipSpace cs with
    | 'n' :: 'u' :: 'l' :: 'l' :: rest => some (.null, rest)
    | 't' :: 'r' :: 'u' :: 'e' :: rest => some (.bool true, rest)
    | 'f' :: 'a' :: 'l' :: 's' :: 'e' :: rest => some (.bool false, rest)
    | '\x22' :: rest => (stringTail (rest.length + 1) [] rest).map fun (s, rest) => (.str s, rest)
    | '[' :: rest =>
      if depth ≤ 1 then none
      else match skipSpace rest with
        | ']' :: rest => some (.arr [], rest)
        | rest => items fuel (depth - 1) [] rest
    | '\x7b' :: rest =>
      if depth ≤ 1 then none
      else match skipSpace rest with
        | '\x7d' :: rest => some (.obj [], rest)
        | rest => members fuel (depth - 1) [] rest
    | '-' :: rest => magnitude true rest
    | rest => magnitude false rest

/-- The rest of an array that has at least one more item; the items read stand in reverse. -/
def items : Nat → Nat → List Json → List Char → Option (Json × List Char)
  | 0, _, _, _ => none
  | fuel + 1, depth, acc, cs =>
    match value fuel depth cs with
    | none => none
    | some (v, rest) =>
      match skipSpace rest with
      | ',' :: rest => items fuel depth (v :: acc) rest
      | ']' :: rest => some (.arr (v :: acc).reverse, rest)
      | _ => none

/-- The rest of an object that has at least one more member. -/
def members : Nat → Nat → Members → List Char → Option (Json × List Char)
  | 0, _, _, _ => none
  | fuel + 1, depth, acc, cs =>
    match skipSpace cs with
    | '\x22' :: rest =>
      match stringTail (rest.length + 1) [] rest with
      | none => none
      | some (key, rest) =>
        match skipSpace rest with
        | ':' :: rest =>
          match value fuel depth rest with
          | none => none
          | some (v, rest) =>
            let acc := Members.insert key v acc
            match skipSpace rest with
            | ',' :: rest => members fuel depth acc rest
            | '\x7d' :: rest => some (.obj acc, rest)
            | _ => none
        | _ => none
    | _ => none

end

/-- Read a text that holds one value and nothing else. -/
def parse? (text : String) : Option Json :=
  let cs := text.toList
  match value (cs.length + 2) 128 cs with
  | some (v, rest) => if (skipSpace rest).isEmpty then some v else none
  | none => none

end PagePreview.Json
