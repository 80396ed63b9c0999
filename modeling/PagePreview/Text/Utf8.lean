/-!
# UTF-8 as a byte-at-a-time automaton

A partial sequence remembers how many continuation bytes it still needs, the value read so far
and the range the next byte has to lie in. Reading a byte sequence gives one entry per scalar
value, and one empty entry per maximal ill-formed part: a byte that cannot continue a sequence
ends it, and is then read again as the start of the next one.
-/

namespace PagePreview

/-- A sequence of octets, as it stands in a file, a header value or a message body. -/
abbrev Bytes := List UInt8

namespace Utf8

/-- The UTF-8 bytes of a text. -/
def encode (text : String) : Bytes := text.toList.flatMap String.utf8EncodeChar

/-- The state inside a multi-byte sequence. -/
structure Pending where
  /-- Continuation bytes still missing. -/
  missing : Nat
  /-- Bits read so far. -/
  value : Nat
  /-- Least value of the next byte. -/
  low : Nat
  /-- Greatest value of the next byte. -/
  high : Nat
  deriving DecidableEq, Repr

/-- What the first byte of a sequence announces. -/
inductive Lead where
  /-- A complete one-byte sequence. -/
  | single (c : Char)
  /-- The start of a longer sequence. -/
  | opens (p : Pending)
  /-- A byte that starts no sequence. -/
  | illFormed
  deriving DecidableEq, Repr

/-- Classify a first byte. The range of the second byte excludes overlong forms, surrogates and
values above the last scalar value. -/
def lead (b : UInt8) : Lead :=
  let n := b.toNat
  if n < 0x80 then .single (Char.ofNat n)
  else if n < 0xC2 then .illFormed
  else if n < 0xE0 then .opens ⟨1, n - 0xC0, 0x80, 0xBF⟩
  else if n = 0xE0 then .opens ⟨2, 0, 0xA0, 0xBF⟩
  else if n = 0xED then .opens ⟨2, 0xD, 0x80, 0x9F⟩
  else if n < 0xF0 then .opens ⟨2, n - 0xE0, 0x80, 0xBF⟩
  else if n = 0xF0 then .opens ⟨3, 0, 0x90, 0xBF⟩
  else if n < 0xF4 then .opens ⟨3, n - 0xF0, 0x80, 0xBF⟩
  else if n = 0xF4 then .opens ⟨3, 4, 0x80, 0x8F⟩
  else .illFormed

/-- What a byte between two sequences gives: the entries that it completes, and what it opens. -/
def start (b : UInt8) : List (Option Char) × Option Pending :=
  match lead b with
  | .single c => ([some c], none)
  | .opens p => ([], some p)
  | .illFormed => ([none], none)

/-- What a byte gives in any state. -/
def step (state : Option Pending) (b : UInt8) : List (Option Char) × Option Pending :=
  match state with
  | none => start b
  | some p =>
    if p.low ≤ b.toNat ∧ b.toNat ≤ p.high then
      let value := p.value * 64 + (b.toNat - 0x80)
      if p.missing ≤ 1 then ([some (Char.ofNat value)], none)
      else ([], some ⟨p.missing - 1, value, 0x80, 0xBF⟩)
    else (none :: (start b).1, (start b).2)

/-- Read bytes from the given state; an empty entry stands for one maximal ill-formed part. -/
def scan : Option Pending → Bytes → List (Option Char)
  | none, [] => []
  | some _, [] => [none]
  | state, b :: rest => (step state b).1 ++ scan (step state b).2 rest

/-- The text of well-formed bytes; nothing when any part is ill-formed. -/
def decode? (bytes : Bytes) : Option String :=
  ((scan none bytes).mapM id).map String.ofList

/-- The text of any bytes, with U+FFFD for each maximal ill-formed part. -/
def decodeLossy (bytes : Bytes) : String :=
  String.ofList ((scan none bytes).map (·.getD '\uFFFD'))

end Utf8

end PagePreview
