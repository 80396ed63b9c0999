import PagePreview.Decimal.Shortest
import PagePreview.Json.Basic
import PagePreview.Text.Ascii

/-!
# Compact JSON text

No blank is written. Quotes, backslashes and control characters below the space are escaped, the
latter by a short escape where there is one. A double is written with the fewest digits that read
back: positionally from `1e-5` up to `1e16`, with an exponent otherwise.
-/

namespace PagePreview.Json

/-- The escape of a character inside a string. -/
def escapeChar (c : Char) : List Char :=
  if c = '\x22' then ['\\', '\x22']
  else if c = '\\' then ['\\', '\\']
  else if c = '\n' then ['\\', 'n']
  else if c = '\r' then ['\\', 'r']
  else if c = '\t' then ['\\', 't']
  else if c = '\x08' then ['\\', 'b']
  else if c = '\x0c' then ['\\', 'f']
  else if c.toNat < 0x20 then
    ['\\', 'u', '0', '0', Ascii.lowerHexDigit (c.toNat / 16), Ascii.lowerHexDigit (c.toNat % 16)]
  else [c]

/-- A string with its quotes. -/
def quote (s : String) : String :=
  String.ofList ('\x22' :: (s.toList.flatMap escapeChar ++ ['\x22']))

/-- The digits of a double as text: `power` is the power of ten of the first digit. -/
def layout (digits : List Char) (power : Int) : List Char :=
  let count : Int := digits.length
  if -5 ≤ power ∧ power < 0 then
    '0' :: '.' :: (List.replicate (-power - 1).toNat '0' ++ digits)
  else if 0 ≤ power ∧ power < 16 then
    if count ≤ power + 1 then
      digits ++ List.replicate (power + 1 - count).toNat '0' ++ ['.', '0']
    else digits.take (power + 1).toNat ++ '.' :: digits.drop (power + 1).toNat
  else
    let mantissa := match digits with
      | [] => []
      | [d] => [d]
      | d :: rest => d :: '.' :: rest
    let sign := if power < 0 then '-' else '+'
    mantissa ++ 'e' :: sign :: Nat.toDigits 10 power.natAbs

/-- The text of a double. -/
def realText (x : Binary64) : String :=
  let magnitude :=
    if x.significand = 0 then ['0', '.', '0']
    else
      let d := x.shortest
      let digits := Nat.toDigits 10 d.digits
      layout digits (d.scale + digits.length - 1)
  String.ofList (if x.negative then '-' :: magnitude else magnitude)

/-- The text of an integer. -/
def intText (n : Int) : String :=
  if n < 0 then "-" ++ Ascii.decimal n.natAbs else Ascii.decimal n.natAbs

mutual

/-- The compact text of a value. -/
def render : Json → String
  | .null => "null"
  | .bool true => "true"
  | .bool false => "false"
  | .int n => intText n
  | .real x => realText x
  | .str s => quote s
  | .arr items => "[" ++ renderItems items ++ "]"
  | .obj members => "\x7b" ++ renderMembers members ++ "\x7d"

/-- The items of an array, separated by commas. -/
def renderItems : List Json → String
  | [] => ""
  | [v] => render v
  | v :: rest => render v ++ "," ++ renderItems rest

/-- The members of an object, separated by commas. -/
def renderMembers : List (String × Json) → String
  | [] => ""
  | [(k, v)] => quote k ++ ":" ++ render v
  | (k, v) :: rest => quote k ++ ":" ++ render v ++ "," ++ renderMembers rest

end

end PagePreview.Json
