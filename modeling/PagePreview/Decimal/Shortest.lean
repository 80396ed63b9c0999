import PagePreview.Decimal.Binary64

/-!
# Shortest decimals that read back

The reals that round to a double form an interval around it; its ends belong to it exactly when
the significand is even. Decimal grids are tried from the coarsest on: the first grid with a point
in the interval gives the digits, and of several points the one nearest to the double.
-/

namespace PagePreview.Binary64

/-- The digits `digits * 10 ^ scale` of a decimal. -/
structure Decimal where
  /-- The significant digits as one number. -/
  digits : Nat
  /-- The power of ten of the last digit. -/
  scale : Int
  deriving DecidableEq, Repr

/-- The interval of reals that round to a double, over a common denominator. -/
structure Rounding where
  /-- Numerator of the double itself. -/
  value : Nat
  /-- Numerator of the lower end. -/
  low : Nat
  /-- Numerator of the upper end. -/
  high : Nat
  /-- The common denominator. -/
  den : Nat
  /-- Whether the ends belong to the interval. -/
  closed : Bool

/-- The interval of a nonzero double. Below a power of two the neighbour is half as far away. -/
def rounding (x : Binary64) : Rounding :=
  let below := if x.significand = leastNormal ∧ x.exponent > minExponent then 1 else 2
  let four := 4 * x.significand
  let closed := x.significand % 2 = 0
  if x.exponent ≥ 0 then
    let unit := Nat.pow 2 x.exponent.toNat
    ⟨four * unit, (four - below) * unit, (four + 2) * unit, 4, closed⟩
  else ⟨four, four - below, four + 2, 4 * Nat.pow 2 (-x.exponent).toNat, closed⟩

namespace Rounding

/-- Whether `digits * 10 ^ scale` lies in the interval. -/
def contains (r : Rounding) (d : Decimal) : Bool :=
  let n := if d.scale ≥ 0 then d.digits * Nat.pow 10 d.scale.toNat * r.den else d.digits * r.den
  let f := if d.scale ≥ 0 then 1 else Nat.pow 10 (-d.scale).toNat
  if r.closed then r.low * f ≤ n && n ≤ r.high * f else r.low * f < n && n < r.high * f

/-- The points of the grid with spacing `10 ^ scale` on either side of the double, nearest first. -/
def neighbours (r : Rounding) (scale : Int) : List Decimal :=
  let num := if scale ≥ 0 then r.value else r.value * Nat.pow 10 (-scale).toNat
  let den := if scale ≥ 0 then r.den * Nat.pow 10 scale.toNat else r.den
  let below := num / den
  let rest := num % den
  let down : Decimal := ⟨below, scale⟩
  let up : Decimal := ⟨below + 1, scale⟩
  if 2 * rest < den ∨ (2 * rest = den ∧ below % 2 = 0) then [down, up] else [up, down]

/-- The first grid, from `scale` downwards, with a point in the interval. -/
def search (r : Rounding) : Nat → Int → Decimal
  | 0, scale => (r.neighbours scale).headD ⟨0, scale⟩
  | fuel + 1, scale =>
    match (r.neighbours scale).find? r.contains with
    | some d => d
    | none => search r fuel (scale - 1)

end Rounding

/-- The power of ten of the first digit of a positive quotient, or one more. -/
def leadingPower (num den : Nat) : Int :=
  ((Nat.toDigits 10 num).length : Int) - ((Nat.toDigits 10 den).length : Int)

/-- Remove zeros at the end of the digits. -/
def Decimal.trim : Nat → Decimal → Decimal
  | 0, d => d
  | fuel + 1, d =>
    if d.digits ≠ 0 ∧ d.digits % 10 = 0 then Decimal.trim fuel ⟨d.digits / 10, d.scale + 1⟩ else d

/-- The shortest decimal that reads back as the magnitude of a nonzero double. -/
def shortest (x : Binary64) : Decimal :=
  let r := x.rounding
  (r.search 20 (leadingPower r.value r.den + 1)).trim 20

end PagePreview.Binary64
