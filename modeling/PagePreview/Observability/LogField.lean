import PagePreview.Decimal.Positional
import PagePreview.Pattern.Automaton
import PagePreview.Text.Ascii
import PagePreview.Text.Blank

/-!
# Fields of logged spans

A directive can ask for a field by its name, or for a field with a value. A value is read as the
first of these that its text can be: a truth value, an integer of 64 bits, a number, a pattern for
the text of the field. Numbers are compared and printed by what they are, patterns as they are
written.
-/

namespace PagePreview

/-- A value that a field is to have. -/
inductive FieldValue where
  /-- A truth value. -/
  | truth (value : Bool)
  /-- An integer without a minus sign. -/
  | natural (n : Nat)
  /-- An integer with a minus sign. -/
  | negated (n : Nat)
  /-- A number that is no integer of 64 bits. -/
  | real (x : Binary64)
  /-- A number beyond all others. -/
  | infinite (negative : Bool)
  /-- What is no number, though it is among them. -/
  | notANumber
  /-- A pattern. -/
  | pattern (source : String)
  deriving DecidableEq, Repr

namespace FieldValue

/-- Whether a minus sign stands at the front, and what follows a sign. -/
def dropSign : List Char → Bool × List Char
  | '+' :: rest => (false, rest)
  | '-' :: rest => (true, rest)
  | cs => (false, cs)

/-- The number that digits alone spell. -/
def digits? (cs : List Char) : Option Nat :=
  if cs.isEmpty || cs.any (!Ascii.isDigit ·) then none else some (Ascii.valueOf 10 cs)

/-- Read an integer of 64 bits. -/
def integer? (cs : List Char) : Option FieldValue := do
  let (negative, cs) := dropSign cs
  let n ← digits? cs
  if negative then
    if n ≤ 0x8000000000000000 then some (.negated n) else none
  else if n ≤ 0xFFFFFFFFFFFFFFFF then some (.natural n)
  else none

/-- Read the exponent of a number; it is zero where none stands. -/
def exponent? : List Char → Option Int
  | [] => some 0
  | c :: rest =>
    if c = 'e' ∨ c = 'E' then
      let (negative, cs) := dropSign rest
      (digits? cs).map fun n => if negative then -(n : Int) else n
    else none

/-- Read a decimal, in which either side of the point may be left out. -/
def decimal? (negative : Bool) (cs : List Char) : Option FieldValue :=
  let (whole, rest) := cs.span Ascii.isDigit
  let (fraction, rest) := match rest with
    | '.' :: rest => rest.span Ascii.isDigit
    | rest => ([], rest)
  if whole.isEmpty && fraction.isEmpty then none
  else (exponent? rest).map fun e =>
    match Binary64.ofDecimal? (Ascii.valueOf 10 (whole ++ fraction)) (e - fraction.length) with
    | some x => .real (x.withSign negative)
    | none => .infinite negative

/-- Read a number, which may be infinite or none. -/
def number? (cs : List Char) : Option FieldValue :=
  let (negative, rest) := dropSign cs
  let name := Ascii.lowerText (String.ofList rest)
  if name = "inf" ∨ name = "infinity" then some (.infinite negative)
  else if name = "nan" then some .notANumber
  else decimal? negative rest

/-- Read a value that is no pattern. -/
def plain? (text : String) : Option FieldValue :=
  if text = "true" then some (.truth true)
  else if text = "false" then some (.truth false)
  else (integer? text.toList).or (number? text.toList)

/-- Read a value. A pattern has to have an automaton. -/
def ofText (text : String) : Except Pattern.AutomatonFault FieldValue :=
  match plain? text with
  | some v => .ok v
  | none =>
    match Pattern.automatonFault? text with
    | some e => .error e
    | none => .ok (.pattern text)

/-- Whether two values are the same; the zeros of both signs are. -/
def same : FieldValue → FieldValue → Bool
  | .real x, .real y => x == y || (x.significand == 0 && y.significand == 0)
  | v, w => v == w

/-- A minus sign, if there is one. -/
def sign (negative : Bool) : String := if negative then "-" else ""

/-- The printed form of a value. -/
def print : FieldValue → String
  | .truth value => if value then "true" else "false"
  | .natural n => Ascii.decimal n
  | .negated n => sign (n != 0) ++ Ascii.decimal n
  | .real x => sign x.negative ++ x.positional
  | .infinite negative => sign negative ++ "inf"
  | .notANumber => "NaN"
  | .pattern source => source

end FieldValue

/-- A field that a directive asks for. -/
structure LogField where
  /-- The name. -/
  name : String
  /-- The value, if one is asked for. -/
  value : Option FieldValue
  deriving DecidableEq, Repr

namespace LogField

/-- Read a field. A second equals sign ends the value. -/
def ofText (text : String) : Except Pattern.AutomatonFault LogField :=
  match Text.splitWhere (· == '=') text.toList with
  | name :: value :: _ =>
    (FieldValue.ofText (String.ofList value)).map fun v => ⟨String.ofList name, some v⟩
  | _ => .ok ⟨text, none⟩

/-- Whether two fields are the same. -/
def same (a b : LogField) : Bool :=
  a.name == b.name &&
    match a.value, b.value with
    | some v, some w => v.same w
    | none, none => true
    | _, _ => false

/-- The printed form of a field. -/
def print (f : LogField) : String :=
  match f.value with
  | some v => f.name ++ "=" ++ v.print
  | none => f.name

end LogField

end PagePreview
