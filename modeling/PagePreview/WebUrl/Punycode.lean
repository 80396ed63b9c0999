import PagePreview.Text.Ascii

/-!
# Labels outside ASCII

A label of a domain name that is not ASCII is written as its ASCII characters followed by the
positions of all others, as numbers in a base of 36 whose digits weigh by an adapting bias.
-/

namespace PagePreview.Punycode

/-- The digit with a value below 36. -/
def digitOf (d : Nat) : Char := if d < 26 then Char.ofNat (0x61 + d) else Char.ofNat (0x16 + d)

/-- The value of a digit of either case. -/
def valueOf? (c : Char) : Option Nat :=
  let c := Ascii.lower c
  if 'a' ≤ c ∧ c ≤ 'z' then some (c.toNat - 0x61)
  else if Ascii.isDigit c then some (c.toNat - 0x16)
  else none

/-- The threshold at a weight under a bias. -/
def threshold (k bias : Nat) : Nat := max 1 (min 26 (k - bias))

/-- Divide by 35 while the number is too great; counts the weights passed. -/
def adaptSteps : Nat → Nat → Nat → Nat
  | 0, delta, k => k + 36 * delta / (delta + 38)
  | fuel + 1, delta, k =>
    if delta > 455 then adaptSteps fuel (delta / 35) (k + 36) else k + 36 * delta / (delta + 38)

/-- The bias after a number was written. -/
def adapt (delta points : Nat) (first : Bool) : Nat :=
  let delta := if first then delta / 700 else delta / 2
  adaptSteps 12 (delta + delta / points) 0

/-- The digits of a number under a bias, least significant first. -/
def numberDigits : Nat → Nat → Nat → Nat → List Char
  | 0, _, _, _ => []
  | fuel + 1, bias, k, q =>
    let t := threshold k bias
    if q < t then [digitOf q]
    else digitOf (t + (q - t) % (36 - t)) :: numberDigits fuel bias (k + 36) ((q - t) / (36 - t))

/-- The state of writing a label. -/
structure Encoder where
  /-- Digits written so far. -/
  out : List Char
  /-- The next number to write. -/
  delta : Nat
  /-- The bias. -/
  bias : Nat
  /-- Characters written so far. -/
  handled : Nat

/-- Pass one character while all of value `n` are being written. -/
def Encoder.pass (basic n : Nat) (e : Encoder) (c : Nat) : Encoder :=
  if c < n then { e with delta := e.delta + 1 }
  else if c = n then
    ⟨e.out ++ numberDigits 64 e.bias 36 e.delta, 0,
      adapt e.delta (e.handled + 1) (e.handled == basic), e.handled + 1⟩
  else e

/-- Write all characters of the given values, in ascending order. -/
def encodeValues (input : List Nat) (basic : Nat) : List Nat → Nat → Encoder → Encoder
  | [], _, e => e
  | m :: rest, n, e =>
    let e := { e with delta := e.delta + (m - n) * (e.handled + 1) }
    let e := input.foldl (Encoder.pass basic m) e
    encodeValues input basic rest (m + 1) { e with delta := e.delta + 1 }

/-- The written form of a label, without the mark that announces it. -/
def encode (label : List Nat) : List Char :=
  let basic := label.filter (· < 0x80)
  let wide := ((label.filter (0x80 ≤ ·)).mergeSort).eraseDups
  let front := basic.map Char.ofNat ++ (if basic.isEmpty then [] else ['-'])
  front ++ (encodeValues label basic.length wide 0x80 ⟨[], 0, 72, basic.length⟩).out

/-- Read one number; gives it added to `i`, and what follows. -/
def readNumber (bias : Nat) : List Char → Nat → Nat → Nat → Option (Nat × List Char)
  | [], _, _, _ => none
  | c :: rest, k, weight, i =>
    match valueOf? c with
    | none => none
    | some d =>
      let i := i + d * weight
      if i ≥ 0x100000000 then none
      else
        let t := threshold k bias
        if d < t then some (i, rest) else readNumber bias rest (k + 36) (weight * (36 - t)) i

/-- Insert the characters that the numbers denote. The least value still to come is `n`, and `i` is
the place after the last insertion. -/
def readAll : Nat → Nat → Nat → Nat → List Nat → List Char → Option (List Nat)
  | _, _, _, _, out, [] => some out
  | 0, _, _, _, _, _ => none
  | fuel + 1, n, i, bias, out, cs =>
    match readNumber bias cs 36 1 i with
    | none => none
    | some (j, rest) =>
      let count := out.length + 1
      let n := n + j / count
      let place := j % count
      if n.isValidChar then
        readAll fuel n (place + 1) (adapt (j - i) count (i == 0))
          (out.take place ++ n :: out.drop place) rest
      else none

/-- The label that a written form stands for. What precedes the last hyphen is taken as it is. -/
def decode? (cs : List Char) : Option (List Nat) :=
  let tail := (cs.reverse.takeWhile (· != '-')).reverse
  let front := cs.take (cs.length - tail.length)
  let (basic, digits) := match front with
    | [] => ([], tail)
    | ['-'] => ([], cs)
    | front => (front.dropLast, tail)
  if basic.all (·.toNat < 0x80) then
    readAll (digits.length + 1) 0x80 0 72 (basic.map Char.toNat) digits
  else none

end PagePreview.Punycode
