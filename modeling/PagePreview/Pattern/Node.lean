import PagePreview.Pattern.CharSet

/-!
# Patterns without flags

What a pattern means once its flags are applied: literal texts, sets of characters, conditions on
positions, repetitions, captures, sequences and choices. The functions that build them keep them
simple: neighbouring literals are one literal, a choice between characters is a set, and what all
choices start with stands before the choice.
-/

namespace PagePreview.Pattern

/-- A condition on a position, with the flags applied. -/
inductive Look where
  /-- The start of the text. -/
  | textStart
  /-- The end of the text. -/
  | textEnd
  /-- The start of the text or of a line; with `crlf`, a carriage return may end a line too. -/
  | lineStart (crlf : Bool)
  /-- The end of the text or of a line. -/
  | lineEnd (crlf : Bool)
  /-- Exactly one side is a word character. -/
  | boundary (unicode : Bool)
  /-- Both sides or neither are word characters. -/
  | noBoundary (unicode : Bool)
  /-- A word starts here. -/
  | wordStart (unicode : Bool)
  /-- A word ends here. -/
  | wordEnd (unicode : Bool)
  /-- No word character stands before. -/
  | wordStartHalf (unicode : Bool)
  /-- No word character stands after. -/
  | wordEndHalf (unicode : Bool)
  deriving DecidableEq, Repr

/-- A pattern with its flags applied. -/
inductive Node where
  /-- The empty text. -/
  | empty
  /-- One particular text, which is not empty. -/
  | literal (text : List Char)
  /-- One character of a set. -/
  | set (s : CharSet)
  /-- A condition on the position. -/
  | look (l : Look)
  /-- A repetition; a greedy one tries more before less. -/
  | repetition (min : Nat) (max : Option Nat) (greedy : Bool) (sub : Node)
  /-- A numbered capture. -/
  | capture (index : Nat) (sub : Node)
  /-- One after another. -/
  | concat (items : List Node)
  /-- The first of several that leads to a match. -/
  | choice (items : List Node)
  deriving Repr, Inhabited

namespace Node

/-! ## Lengths and anchors -/

mutual

/-- Whether only the empty text can be matched. -/
def matchesOnlyEmpty : Node → Bool
  | .empty => true
  | .look _ => true
  | .literal _ => false
  | .set _ => false
  | .repetition _ _ _ sub => sub.matchesOnlyEmpty
  | .capture _ sub => sub.matchesOnlyEmpty
  | .concat items => allMatchOnlyEmpty items
  | .choice items => allMatchOnlyEmpty items

/-- Whether every one of several can match only the empty text. -/
def allMatchOnlyEmpty : List Node → Bool
  | [] => true
  | a :: rest => a.matchesOnlyEmpty && allMatchOnlyEmpty rest

end

mutual

/-- The number of characters that every match has at least. Where a set without members may be
asked for, there is no such number. -/
def shortest? : Node → Option Nat
  | .empty => some 0
  | .look _ => some 0
  | .literal text => some text.length
  | .set s => if s.isEmpty then none else some 1
  | .repetition min _ _ sub => sub.shortest?.map (min * ·)
  | .capture _ sub => sub.shortest?
  | .concat items => shortestSum? items
  | .choice items => shortestOf? items

/-- The sum of these numbers for several. -/
def shortestSum? : List Node → Option Nat
  | [] => some 0
  | a :: rest => do return (← a.shortest?) + (← shortestSum? rest)

/-- The least of these numbers of several. -/
def shortestOf? : List Node → Option Nat
  | [] => none
  | [a] => a.shortest?
  | a :: rest => do return Nat.min (← a.shortest?) (← shortestOf? rest)

end

/-- Whether every match has at least one character. -/
def consumes (n : Node) : Bool := n.shortest?.any (0 < ·)

mutual

/-- Whether every match has to start at the start of the text. -/
def startsText : Node → Bool
  | .look .textStart => true
  | .repetition min _ _ sub => min != 0 && sub.startsText
  | .capture _ sub => sub.startsText
  | .concat items => firstStartsText items
  | .choice items => allStartText items
  | _ => false

/-- Whether one of several, before any that may have characters, is bound to the start. -/
def firstStartsText : List Node → Bool
  | [] => false
  | a :: rest => a.startsText || (a.matchesOnlyEmpty && firstStartsText rest)

/-- Whether every one of several is bound to the start. -/
def allStartText : List Node → Bool
  | [] => true
  | a :: rest => a.startsText && allStartText rest

end

mutual

/-- Whether every match has to end at the end of the text. -/
def endsText : Node → Bool
  | .look .textEnd => true
  | .repetition min _ _ sub => min != 0 && sub.endsText
  | .capture _ sub => sub.endsText
  | .concat items => lastEndsText items
  | .choice items => allEndText items
  | _ => false

/-- Whether one of several, after all that may have characters, is bound to the end. -/
def lastEndsText : List Node → Bool
  | [] => false
  | a :: rest => lastEndsText rest || (allMatchOnlyEmpty rest && a.endsText)

/-- Whether every one of several is bound to the end. -/
def allEndText : List Node → Bool
  | [] => true
  | a :: rest => a.endsText && allEndText rest

end

/-! ## Equality -/

mutual

/-- Whether two patterns are built alike. -/
def same : Node → Node → Bool
  | .empty, .empty => true
  | .literal a, .literal b => a == b
  | .set s, .set t => s == t
  | .look l, .look m => l == m
  | .repetition min max greedy a, .repetition min' max' greedy' b =>
    min == min' && max == max' && greedy == greedy' && a.same b
  | .capture i a, .capture j b => i == j && a.same b
  | .concat as, .concat bs => sameAll as bs
  | .choice as, .choice bs => sameAll as bs
  | _, _ => false

/-- Whether two lists of patterns are built alike. -/
def sameAll : List Node → List Node → Bool
  | [], [] => true
  | a :: as, b :: bs => a.same b && sameAll as bs
  | _, _ => false

end

/-! ## Building -/

/-- A set; the set of one character is that character. -/
def ofSet (s : CharSet) : Node :=
  match s with
  | [(a, b)] => if a = b then .literal [Char.ofNat a] else .set s
  | _ => .set s

/-- A repetition. What can match only the empty text is matched once at most, no repetition at all
is the empty text, and one repetition is the item itself. -/
def ofRepetition (min : Nat) (max : Option Nat) (greedy : Bool) (sub : Node) : Node :=
  let once := sub.matchesOnlyEmpty
  let min := if once then Nat.min min 1 else min
  let max := if once then some (match max with
    | some n => Nat.min n 1
    | none => 1) else max
  if min = 0 ∧ max = some 0 then .empty
  else if min = 1 ∧ max = some 1 then sub
  else .repetition min max greedy sub

/-- Make one literal of literals that stand side by side. -/
def joinLiterals : List Node → List Node
  | [] => []
  | .literal a :: rest =>
    match joinLiterals rest with
    | .literal b :: others => .literal (a ++ b) :: others
    | others => .literal a :: others
  | a :: rest => a :: joinLiterals rest

/-- A sequence; nested sequences are joined and empty texts are left out. -/
def ofConcat (items : List Node) : Node :=
  let flat := items.flatMap fun
    | .concat sub => sub
    | .empty => []
    | a => [a]
  match joinLiterals flat with
  | [] => .empty
  | [a] => a
  | flat => .concat flat

/-- The character of a literal of one character. -/
def character? : Node → Option Char
  | .literal [c] => some c
  | _ => none

/-- The members of a set. -/
def members? : Node → Option CharSet
  | .set s => some s
  | _ => none

/-- The items of a sequence. -/
def items? : Node → Option (List Node)
  | .concat items => some items
  | _ => none

/-- A choice; nested choices are joined, and a choice between characters or between sets is a
set. -/
def choiceOf (items : List Node) : Node :=
  let flat := items.flatMap fun
    | .choice sub => sub
    | a => [a]
  match flat with
  | [] => .set []
  | [a] => a
  | flat =>
    match flat.mapM character?, flat.mapM members? with
    | some cs, _ => ofSet (CharSet.ofIntervals (cs.flatMap CharSet.single))
    | none, some sets => ofSet (CharSet.ofIntervals (sets.flatMap id))
    | none, none => .choice flat

/-- The items that two sequences have in common at the front. -/
def commonFront : List Node → List Node → List Node
  | a :: as, b :: bs => if a.same b then a :: commonFront as bs else []
  | _, _ => []

/-- A choice. Where all are sequences, what they have in common at the front comes before it. -/
def ofChoice (items : List Node) : Node :=
  match choiceOf items with
  | .choice flat =>
    match flat.mapM items? with
    | some (first :: others) =>
      let front := others.foldl commonFront first
      if front.isEmpty then .choice flat
      else
        let tails := (first :: others).map fun items => ofConcat (items.drop front.length)
        ofConcat (front ++ [choiceOf tails])
    | _ => .choice flat
  | simple => simple

end Node

end PagePreview.Pattern
