import PagePreview.Pattern.Program
import Std.Data.HashSet

/-!
# Searching

All ways to match are followed at once, one character at a time, in the order in which they are to
be preferred; a way that comes to an instruction where a preferred one already is, at the same
position, is dropped. So a search takes time proportional to the text and the program. The match
that starts first wins, and of those the most preferred one.
-/

namespace PagePreview.Pattern

/-- Positions noted so far: two for each group. -/
abbrev Slots := Array (Option Nat)

/-- One way to match, waiting at an instruction. -/
structure Thread where
  /-- Position in the program. -/
  pc : Nat
  /-- The positions noted on the way. -/
  slots : Slots

/-- A position in a text: its index and the characters on either side. -/
structure Place where
  /-- The number of characters before. -/
  index : Nat
  /-- The character before. -/
  before : Option Char
  /-- The character after. -/
  after : Option Char

/-- Whether a side of a position is a word character. -/
def isWordSide (unicode : Bool) : Option Char → Bool
  | none => false
  | some c =>
    if unicode then Unicode.isWord c else c.toNat < 0x80 && Unicode.isWord c

/-- Whether a position meets a condition. -/
def Look.holds (p : Place) : Look → Bool
  | .textStart => p.before.isNone
  | .textEnd => p.after.isNone
  | .lineStart false => p.before.isNone || p.before == some '\n'
  | .lineStart true => p.before.isNone || p.before == some '\n' ||
      (p.before == some '\r' && p.after != some '\n')
  | .lineEnd false => p.after.isNone || p.after == some '\n'
  | .lineEnd true => p.after.isNone || p.after == some '\r' ||
      (p.after == some '\n' && p.before != some '\r')
  | .boundary u => isWordSide u p.before != isWordSide u p.after
  | .noBoundary u => isWordSide u p.before == isWordSide u p.after
  | .wordStart u => !isWordSide u p.before && isWordSide u p.after
  | .wordEnd u => isWordSide u p.before && !isWordSide u p.after
  | .wordStartHalf u => !isWordSide u p.before
  | .wordEndHalf u => !isWordSide u p.after

/-- Follow threads through all instructions that take no character. The threads that then wait for
a character or accept are collected in reverse order of preference. -/
def follow (program : Program) (place : Place) :
    Nat → List Thread → Std.HashSet Nat → List Thread → List Thread
  | 0, _, _, ready => ready
  | _ + 1, [], _, ready => ready
  | fuel + 1, t :: rest, seen, ready =>
    if seen.contains t.pc then follow program place fuel rest seen ready
    else
      let seen := seen.insert t.pc
      match program[t.pc]? with
      | none => follow program place fuel rest seen ready
      | some .accept => follow program place fuel rest seen (t :: ready)
      | some (.take _) => follow program place fuel rest seen (t :: ready)
      | some (.look l) =>
        if l.holds place then
          follow program place fuel (⟨t.pc + 1, t.slots⟩ :: rest) seen ready
        else follow program place fuel rest seen ready
      | some (.split first second) =>
        follow program place fuel (⟨first, t.slots⟩ :: ⟨second, t.slots⟩ :: rest) seen ready
      | some (.jump target) => follow program place fuel (⟨target, t.slots⟩ :: rest) seen ready
      | some (.save slot) =>
        follow program place fuel
          (⟨t.pc + 1, t.slots.setIfInBounds slot (some place.index)⟩ :: rest) seen ready

/-- Let the waiting threads take the next character. The first that accepts is a match, and those
after it are given up. -/
def advance (program : Program) (next : Option Char) :
    List Thread → List Thread → List Thread × Option Slots
  | [], moved => (moved.reverse, none)
  | t :: rest, moved =>
    match program[t.pc]? with
    | some .accept => (moved.reverse, some t.slots)
    | some (.take s) =>
      match next with
      | some c =>
        if CharSet.has s c then advance program next rest (⟨t.pc + 1, t.slots⟩ :: moved)
        else advance program next rest moved
      | none => advance program next rest moved
    | _ => advance program next rest moved

/-- Go through a text from a position on. A search that has no match yet starts anew at every
position, with the least preference. -/
def run (program : Program) (blank : Slots) :
    List Char → Nat → Option Char → List Thread → Option Slots → Option Slots
  | text, index, before, threads, found =>
    let place : Place := ⟨index, before, text.head?⟩
    let threads := if found.isNone then threads ++ [⟨0, blank⟩] else threads
    let fuel := 3 * program.size + threads.length + 1
    let ready := (follow program place fuel threads ∅ []).reverse
    let (moved, hit) := advance program text.head? ready []
    let found := hit.or found
    match text with
    | [] => found
    | c :: rest =>
      if moved.isEmpty && found.isSome then found
      else run program blank rest (index + 1) (some c) moved found

/-- The part of a text between two positions. -/
def between (text : List Char) (a b : Nat) : String := String.ofList ((text.drop a).take (b - a))

/-- The text of a group from the positions that were noted. -/
def groupOf (text : List Char) (slots : Slots) (n : Nat) : Option String :=
  match slots[2 * n]?, slots[2 * n + 1]? with
  | some (some a), some (some b) => some (between text a b)
  | _, _ => none

end PagePreview.Pattern
