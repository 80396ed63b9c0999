import PagePreview.Pattern.ByteRange
import PagePreview.Pattern.Node
import Std.Data.HashMap

/-!
# The size of a compiled pattern

A pattern is refused when its automaton over the bytes of UTF-8, forwards or backwards, would take
more than 10 MiB. A state takes 32 bytes, each transition of a state with several takes 8 and each
alternative of a branching state takes 4. The automaton is not kept; only its states are counted,
in the order in which they are made, because what the states of a set share depends on their
numbers.
-/

namespace PagePreview.Pattern

/-- The greatest size of a compiled pattern in bytes. -/
def sizeLimit : Nat := 10 * 0x100000

/-- An automaton that is being built. -/
structure Tally where
  /-- The number of states, which is the number of the next state too. -/
  states : Nat
  /-- The bytes that they take. -/
  bytes : Nat
  deriving DecidableEq, Repr

/-- Add some states with some bytes for their transitions, if the limit allows it. -/
def Tally.grow? (t : Tally) (states extra : Nat) : Option Tally :=
  let bytes := t.bytes + 32 * states + extra
  if bytes ≤ sizeLimit then some ⟨t.states + states, bytes⟩ else none

/-! ## Remembered states

Equal states of a set are made once, as long as the first is remembered. A state is remembered at
a place of a table that its contents pick, and forgotten when another takes that place.
-/

/-- A table of remembered states: at each place taken, the contents of a state and its number. -/
abbrev Memory (α : Type) := Std.HashMap Nat (α × Nat)

/-- Mix a number into a hash. -/
def mixIn (hash : UInt64) (n : Nat) : UInt64 := (hash ^^^ UInt64.ofNat n) * 1099511628211

/-- The place for contents that are made up of some numbers, in a table of a given size. -/
def placeOf (size : Nat) (numbers : List Nat) : Nat :=
  (numbers.foldl mixIn 14695981039346656037).toNat % size

/-- The number of a remembered state with given contents. -/
def known? {α : Type} [BEq α] (memory : Memory α) (place : Nat) (contents : α) : Option Nat :=
  match memory[place]? with
  | some (known, n) => if known == contents then some n else none
  | none => none

/-! ## Sets, forwards -/

/-- A state as its transitions, each to a state known by its number. -/
abbrev Transitions := List (ByteRange × Nat)

/-- The numbers that pick the place of a state. -/
def Transitions.numbers (t : Transitions) : List Nat := t.flatMap fun (r, n) => [r.1, r.2, n]

/-- How many states of a set are remembered forwards. -/
def forwardPlaces : Nat := 10000

/-- The number of a state, which is made unless an equal one is remembered. -/
def stateFor? (made : Transitions) (t : Tally) (memory : Memory Transitions) :
    Option (Nat × Tally × Memory Transitions) :=
  let place := placeOf forwardPlaces made.numbers
  match known? memory place made with
  | some n => some (n, t, memory)
  | none =>
    (t.grow? 1 (8 * made.length)).map fun grown =>
      (t.states, grown, memory.insert place (made, t.states))

/-- Put sequences that start with the same bytes together. -/
def groupByFirst : List (List ByteRange) → List (ByteRange × List (List ByteRange))
  | [] => []
  | [] :: rest => groupByFirst rest
  | (r :: tail) :: rest =>
    match groupByFirst rest with
    | (q, tails) :: groups =>
      if q = r then (r, tail :: tails) :: groups else (r, [tail]) :: (q, tails) :: groups
    | [] => [(r, [tail])]

/-- Make the states for some sequences of at most so many bytes; those at the end of a sequence
come first. All sequences lead to `finish`. -/
def sequenceState? (finish : Nat) : Nat → List (List ByteRange) → Tally → Memory Transitions →
    Option (Nat × Tally × Memory Transitions)
  | 0, _, t, memory => some (finish, t, memory)
  | fuel + 1, seqs, t, memory =>
    if seqs.all List.isEmpty then some (finish, t, memory)
    else do
      let (made, t, memory) ← (groupByFirst seqs).foldlM (fun (made, t, memory) group => do
        let (n, t, memory) ← sequenceState? finish fuel group.2 t memory
        return ((group.1, n) :: made, t, memory)) (([] : Transitions), t, memory)
      stateFor? made.reverse t memory

/-- Make the states of a set, read forwards. -/
def forwardSet? (s : CharSet) (t : Tally) : Option Tally := do
  let finish := t.states
  let (_, t, _) ← sequenceState? finish 5 (byteSequences s) (← t.grow? 1 0) ∅
  return t

/-! ## Sets, backwards -/

/-- How many states of a set are remembered backwards. -/
def backwardPlaces : Nat := 1000

/-- Make the states of a sequence from its first byte on, each leading to the one before. -/
def sequenceStates? : List ByteRange → Nat → Tally → Memory (ByteRange × Nat) →
    Option (Tally × Memory (ByteRange × Nat))
  | [], _, t, memory => some (t, memory)
  | r :: rest, before, t, memory =>
    let place := placeOf backwardPlaces [before, r.1, r.2]
    match known? memory place (r, before) with
    | some n => sequenceStates? rest n t memory
    | none => (t.grow? 1 0).bind fun grown =>
      sequenceStates? rest t.states grown (memory.insert place ((r, before), t.states))

/-- Make the states of a set, read backwards: a branching state with an alternative for every
sequence, and the state at the end. -/
def backwardSet? (s : CharSet) (t : Tally) : Option Tally := do
  let seqs := byteSequences s
  let finish := t.states + 1
  let (t, _) ← seqs.foldlM (fun (t, memory) seq => sequenceStates? seq finish t memory)
    (← t.grow? 2 (4 * seqs.length), (∅ : Memory (ByteRange × Nat)))
  return t

/-- Make the states of a set. One of ASCII characters is a single state with a transition for
each interval, and the state at the end. -/
def setStates? (forward : Bool) (s : CharSet) (t : Tally) : Option Tally :=
  if s.isAscii then t.grow? 2 (8 * s.length)
  else if forward then forwardSet? s t
  else backwardSet? s t

/-! ## Choices between literals

They are read from a tree. A text that ends where others go on closes the branches met so far, so
that the order of preference is kept.
-/

/-- The bytes of a literal in the order in which they are read. -/
def literalBytes (forward : Bool) (text : List Char) : List UInt8 :=
  let bytes := text.flatMap String.utf8EncodeChar
  if forward then bytes else bytes.reverse

/-- Put texts under their first bytes. -/
def branches : List (List UInt8) → List (UInt8 × List (List UInt8))
  | [] => []
  | [] :: rest => branches rest
  | (b :: tail) :: rest =>
    let others := branches rest
    match others.lookup b with
    | some tails => (b, tail :: tails) :: others.filter (·.1 != b)
    | none => (b, [tail]) :: others

/-- Make the states for a tree of texts of at most so many bytes: for every node that is no leaf,
one for each group of branches and one that tries these groups in turn. -/
def treeStates? : Nat → List (List UInt8) → Tally → Option Tally
  | 0, _, t => some t
  | fuel + 1, texts, t => do
    let texts := match texts with
      | [] :: rest => [] :: rest.dropWhile List.isEmpty
      | texts => texts
    let groups := (Text.splitWhere List.isEmpty texts).map branches
    let made := groups.filter (!·.isEmpty)
    let t ← made.foldlM (fun t group => do
      let t ← group.foldlM (fun t (_, tails) =>
        if tails.all List.isEmpty then some t else treeStates? fuel tails t) t
      t.grow? 1 (if group.length = 1 then 0 else 8 * group.length)) t
    t.grow? 1 (4 * (made.length + (groups.length - 1)))

/-- The text of a literal. -/
def literal? : Node → Option (List Char)
  | .literal text => some text
  | _ => none

/-- Make the states for a choice between literals. -/
def literalStates? (forward : Bool) (texts : List (List Char)) (t : Tally) : Option Tally := do
  let texts := texts.map (literalBytes forward)
  treeStates? (texts.foldl (fun n text => max n text.length) 0) texts (← t.grow? 1 0)

/-! ## The whole pattern -/

/-- Make something so many times. -/
def repeatStates? (make : Tally → Option Tally) : Nat → Tally → Option Tally
  | 0, t => some t
  | n + 1, t =>
    match make t with
    | some t => repeatStates? make n t
    | none => none

mutual

/-- Make the states of a pattern in one direction. Captures have states only forwards. -/
def Node.states? (forward : Bool) : Node → Tally → Option Tally
  | .empty, t => t.grow? 1 0
  | .literal text, t => t.grow? (literalBytes true text).length 0
  | .set s, t => setStates? forward s t
  | .look _, t => t.grow? 1 0
  | .repetition min max _ sub, t =>
    match max with
    | none =>
      if min = 0 then
        if sub.consumes then (t.grow? 1 8).bind (sub.states? forward)
        else (sub.states? forward t).bind (·.grow? 3 16)
      else (repeatStates? (fun t => sub.states? forward t) min t).bind (·.grow? 1 8)
    | some max =>
      if min = 0 ∧ max = 1 then
        ((t.grow? 1 8).bind (sub.states? forward)).bind (·.grow? 1 0)
      else if min = max then repeatStates? (fun t => sub.states? forward t) min t
      else
        let front := if min = 0 then t.grow? 1 0
          else repeatStates? (fun t => sub.states? forward t) min t
        (front.bind (·.grow? 1 0)).bind
          (repeatStates? (fun t => (t.grow? 1 8).bind (sub.states? forward)) (max - min))
  | .capture _ sub, t =>
    if forward then ((t.grow? 1 0).bind (sub.states? forward)).bind (·.grow? 1 0)
    else sub.states? forward t
  | .concat items, t =>
    if forward then Node.statesInOrder? forward items t else Node.statesFromEnd? forward items t
  | .choice items, t =>
    match items.mapM literal? with
    | some texts => literalStates? forward texts t
    | none => Node.choiceStates? forward items t

/-- Make the states of several patterns, the first one first. -/
def Node.statesInOrder? (forward : Bool) : List Node → Tally → Option Tally
  | [], t => some t
  | a :: rest, t => (a.states? forward t).bind (Node.statesInOrder? forward rest)

/-- Make the states of several patterns, the last one first. -/
def Node.statesFromEnd? (forward : Bool) : List Node → Tally → Option Tally
  | [], t => some t
  | a :: rest, t => (Node.statesFromEnd? forward rest t).bind (a.states? forward)

/-- Make the states of several patterns of which one is to match: after the first two come the
branching state and the state at the end. -/
def Node.choiceStates? (forward : Bool) : List Node → Tally → Option Tally
  | a :: b :: rest, t =>
    (((a.states? forward t).bind (b.states? forward)).bind
      (·.grow? 2 (4 * (rest.length + 2)))).bind (Node.statesInOrder? forward rest)
  | [a], t => a.states? forward t
  | [], t => t.grow? 1 0

end

/-- Make all states in one direction: first those that skip what stands before a match, unless a
match is bound to the end of the text where reading starts, and last the one that accepts. -/
def Node.automaton? (forward : Bool) (n : Node) : Option Tally := do
  let bound := if forward then n.startsText else n.endsText
  let t ← if bound then Tally.grow? ⟨0, 0⟩ 1 0 else Tally.grow? ⟨0, 0⟩ 3 16
  (← (Node.capture 0 n).states? forward t).grow? 1 0

/-- Whether the automata of a pattern keep within the limit. -/
def Node.fits (n : Node) : Bool := (n.automaton? true).isSome && (n.automaton? false).isSome

end PagePreview.Pattern
