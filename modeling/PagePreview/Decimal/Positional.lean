import PagePreview.Decimal.Shortest

/-!
# Positional decimals

The shortest digits of a double stand at their places, with zeros where it has none and without an
exponent, however many there are. A whole number has no point.
-/

namespace PagePreview.Binary64

/-- The digits at their places; the last one counts powers of ten as the scale says. -/
def place (digits : List Char) (scale : Int) : List Char :=
  let fraction := (-scale).toNat
  if fraction = 0 then digits ++ List.replicate scale.toNat '0'
  else if digits.length ≤ fraction then
    '0' :: '.' :: (List.replicate (fraction - digits.length) '0' ++ digits)
  else
    let whole := digits.length - fraction
    digits.take whole ++ '.' :: digits.drop whole

/-- The magnitude of a double. -/
def positional (x : Binary64) : String :=
  if x.significand = 0 then "0"
  else
    let d := x.shortest
    String.ofList (place (Nat.toDigits 10 d.digits) d.scale)

end PagePreview.Binary64
