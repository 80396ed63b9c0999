/-!
# How alike two texts are

Two texts are alike if they share many characters at nearly the same places and in nearly the same
order. With `m` shared characters, of which `t` pairs have changed places, texts of `a` and `b`
characters are alike to the degree `(m / a + m / b + (m - t) / m) / 3`, which is 1 for equal texts
and 0 for texts without a shared character.
-/

namespace PagePreview.Similarity

/-- How far apart the places of a shared character may be. -/
def reach (a b : Nat) : Nat := max a b / 2 - 1

/-- Take the first free place, from a given place on, of those within reach that has this
character: the places with what is taken at them. -/
def claim (c : Char) (low high : Nat) :
    Nat → List (Char × Bool) → Option (List (Char × Bool))
  | _, [] => none
  | place, (d, taken) :: rest =>
    if low ≤ place ∧ place < high ∧ c = d ∧ taken = false then some ((d, true) :: rest)
    else (claim c low high (place + 1) rest).map ((d, taken) :: ·)

/-- The shared characters in the order of either text. The places of the second text are taken one
by one; the first text is read from a given place on. -/
def shared (reach : Nat) : Nat → List Char → List (Char × Bool) → List Char × List Char
  | _, [], places => ([], (places.filter (·.2)).map (·.1))
  | place, c :: rest, places =>
    match claim c (place - reach) (place + reach + 1) 0 places with
    | some places =>
      let (front, back) := shared reach (place + 1) rest places
      (c :: front, back)
    | none => shared reach (place + 1) rest places

/-- A degree of likeness as a fraction. -/
structure Degree where
  /-- The numerator. -/
  numerator : Nat
  /-- The denominator, which is positive. -/
  denominator : Nat
  deriving DecidableEq, Repr

/-- Whether a degree is not above another one. -/
def Degree.le (x y : Degree) : Bool :=
  x.numerator * y.denominator ≤ y.numerator * x.denominator

/-- How alike two texts are. -/
def degree (first second : String) : Degree :=
  let cs := first.toList
  let ds := second.toList
  let (a, b) := (cs.length, ds.length)
  let (front, back) := shared (reach a b) 0 cs (ds.map (·, false))
  let m := front.length
  if a = 0 ∧ b = 0 then ⟨1, 1⟩
  else if m = 0 then ⟨0, 1⟩
  else
    let changed := ((front.zip back).filter fun p => p.1 != p.2).length / 2
    ⟨m * m * b + m * m * a + (m - changed) * a * b, 3 * a * b * m⟩

/-- The degree from which on two texts are taken for one another. -/
def threshold : Degree := ⟨7, 10⟩

/-- The text that is most like a given one, if any is alike enough; of several the last one. -/
def closest? (text : String) (candidates : List String) : Option String :=
  (candidates.foldl (fun best candidate =>
    let d := degree text candidate
    match best with
    | some (known, e) => if e.le d then some (candidate, d) else some (known, e)
    | none => if threshold.le d then some (candidate, d) else none) none).map (·.1)

end PagePreview.Similarity
