/-!
# Finite binary64 numbers in exact arithmetic

A finite double is a sign, an integer significand below `2 ^ 53` and a power of two. Rounding a
quotient of integers to the nearest double is done in integer arithmetic, a tie going to the even
significand; a quotient that rounds beyond the greatest finite double has no value.
-/

namespace PagePreview

/-- A finite double: `± significand * 2 ^ exponent`. -/
structure Binary64 where
  /-- The sign bit; zero has one too. -/
  negative : Bool
  /-- Below `2 ^ 53`, and at least `2 ^ 52` unless the exponent is the least one. -/
  significand : Nat
  /-- At least `-1074`. -/
  exponent : Int
  deriving DecidableEq, Repr, Inhabited

namespace Binary64

/-- The least exponent, that of the subnormal numbers. -/
def minExponent : Int := -1074

/-- The greatest exponent of a finite double. -/
def maxExponent : Int := 971

/-- The least significand with all 53 bits. -/
def leastNormal : Nat := 0x10000000000000

/-- Positive zero. -/
def zero : Binary64 := ⟨false, 0, minExponent⟩

/-- Divide and round to the nearest integer, a tie to the even one. -/
def roundQuotient (num den : Nat) : Nat :=
  let q := num / den
  let r := num % den
  if 2 * r < den then q
  else if den < 2 * r then q + 1
  else if q % 2 = 0 then q else q + 1

/-- The exponent at which the quotient has a 53-bit significand, not below the least one. -/
def exponentOf (num den : Nat) : Int :=
  let guess : Int := (Nat.log2 num : Int) - (Nat.log2 den : Int) - 52
  let low : Bool :=
    if guess ≥ 0 then num < den * Nat.pow 2 (guess.toNat + 52)
    else num * Nat.pow 2 (-guess).toNat < den * leastNormal
  max minExponent (if low then guess - 1 else guess)

/-- The double nearest to `num / den`, or nothing when that lies beyond the finite ones. -/
def ofQuotient? (num den : Nat) : Option Binary64 :=
  if num = 0 then some zero
  else
    let e := exponentOf num den
    let m := if e ≥ 0 then roundQuotient num (den * Nat.pow 2 e.toNat)
      else roundQuotient (num * Nat.pow 2 (-e).toNat) den
    let (m, e) := if m = 2 * leastNormal then (leastNormal, e + 1) else (m, e)
    if e > maxExponent then none else some ⟨false, m, e⟩

/-- The magnitude as a quotient of integers. -/
def quotient (x : Binary64) : Nat × Nat :=
  if x.exponent ≥ 0 then (x.significand * Nat.pow 2 x.exponent.toNat, 1)
  else (x.significand, Nat.pow 2 (-x.exponent).toNat)

/-- The double nearest to a natural number. -/
def ofNat? (n : Nat) : Option Binary64 := ofQuotient? n 1

/-- The double nearest to `n * 10 ^ exponent`, or nothing when that lies beyond the finite ones.
Numbers that are far beyond them or far below the least one are told by their digits alone. -/
def ofDecimal? (n : Nat) (exponent : Int) : Option Binary64 :=
  let power := exponent + (Nat.toDigits 10 n).length
  if n = 0 ∨ power < -330 then some zero
  else if power > 320 then none
  else if exponent ≥ 0 then ofNat? (n * Nat.pow 10 exponent.toNat)
  else ofQuotient? n (Nat.pow 10 (-exponent).toNat)

/-- The rounded product of two magnitudes. -/
def mul? (x y : Binary64) : Option Binary64 :=
  ofQuotient? (x.quotient.1 * y.quotient.1) (x.quotient.2 * y.quotient.2)

/-- The rounded quotient of two magnitudes; the second is not zero. -/
def div? (x y : Binary64) : Option Binary64 :=
  ofQuotient? (x.quotient.1 * y.quotient.2) (x.quotient.2 * y.quotient.1)

/-- The number with the given sign. -/
def withSign (x : Binary64) (negative : Bool) : Binary64 := { x with negative }

end Binary64

end PagePreview
