import PagePreview.Pattern.Meaning

/-!
# Programs

A pattern is matched by a program of instructions that are tried in order. Each part of a pattern
becomes a block of instructions that is entered at its first and left behind its last; the length
of the block is known beforehand, so that a branch can point past it.
-/

namespace PagePreview.Pattern

/-- One instruction. Positions are indices into the program. -/
inductive Instr where
  /-- The match is complete. -/
  | accept
  /-- Take one character of a set and go on with the next instruction. -/
  | take (s : CharSet)
  /-- Go on with the next instruction if the position meets a condition. -/
  | look (l : Look)
  /-- Go on at the first position, and failing that at the second. -/
  | split (first second : Nat)
  /-- Go on elsewhere. -/
  | jump (target : Nat)
  /-- Note the position in a slot. -/
  | save (slot : Nat)
  deriving DecidableEq, Repr, Inhabited

/-- A list of instructions. -/
abbrev Program := Array Instr

mutual

/-- The number of instructions of a pattern's block. -/
def Node.width : Node → Nat
  | .empty => 0
  | .literal text => text.length
  | .set _ => 1
  | .look _ => 1
  | .repetition min max _ sub =>
    match max with
    | none => if min = 0 then sub.width + 2 else min * sub.width + 1
    | some max => min * sub.width + (max - min) * (sub.width + 1)
  | .capture _ sub => sub.width + 2
  | .concat items => Node.widths items
  | .choice items => Node.widths items + 2 * (items.length - 1)

/-- The number of instructions of several blocks. -/
def Node.widths : List Node → Nat
  | [] => 0
  | a :: rest => a.width + Node.widths rest

end

/-- A branch that tries to go on with `inside` first if it is greedy, and with `outside` if not. -/
def branch (greedy : Bool) (inside outside : Nat) : Instr :=
  if greedy then .split inside outside else .split outside inside

/-- Do something to a program so many times. -/
def repeatTimes (f : Program → Program) : Nat → Program → Program
  | 0, p => p
  | n + 1, p => repeatTimes f n (f p)

mutual

/-- Append the block of a pattern to a program. -/
def Node.emit : Node → Program → Program
  | .empty, p => p
  | .literal text, p => text.foldl (fun p c => p.push (.take (CharSet.single c))) p
  | .set s, p => p.push (.take s)
  | .look l, p => p.push (.look l)
  | .repetition min max greedy sub, p =>
    match max with
    | some max =>
      let p := repeatTimes (fun p => sub.emit p) min p
      let finish := p.size + (max - min) * (sub.width + 1)
      repeatTimes (fun p => sub.emit (p.push (branch greedy (p.size + 1) finish))) (max - min) p
    | none =>
      if min = 0 then
        let start := p.size
        let finish := start + sub.width + 2
        let p := sub.emit (p.push (branch greedy (start + 1) finish))
        -- A body that may match the empty text loops behind the first branch.
        if sub.consumes then p.push (.jump start) else p.push (branch greedy (start + 1) finish)
      else
        let p := repeatTimes (fun p => sub.emit p) (min - 1) p
        let start := p.size
        let p := sub.emit p
        p.push (branch greedy start (p.size + 1))
  | .capture index sub, p =>
    (sub.emit (p.push (.save (2 * index)))).push (.save (2 * index + 1))
  | .concat items, p => Node.emitAll items p
  | .choice items, p =>
    Node.emitChoices items (p.size + Node.widths items + 2 * (items.length - 1)) p

/-- Append several blocks one after another. -/
def Node.emitAll : List Node → Program → Program
  | [], p => p
  | a :: rest, p => Node.emitAll rest (a.emit p)

/-- Append blocks of which the first that leads to a match counts; all go on at `finish`. -/
def Node.emitChoices : List Node → Nat → Program → Program
  | [], _, p => p
  | [a], _, p => a.emit p
  | a :: b :: rest, finish, p =>
    let second := p.size + a.width + 2
    let p := (a.emit (p.push (.split (p.size + 1) second))).push (.jump finish)
    Node.emitChoices (b :: rest) finish p

end

mutual

/-- One more than the greatest number of a capture, or one without any. -/
def Node.groups : Node → Nat
  | .repetition _ _ _ sub => sub.groups
  | .capture index sub => max (index + 1) sub.groups
  | .concat items => Node.groupsOfAll items
  | .choice items => Node.groupsOfAll items
  | _ => 1

/-- The greatest number of groups among several. -/
def Node.groupsOfAll : List Node → Nat
  | [] => 1
  | a :: rest => max a.groups (Node.groupsOfAll rest)

end

/-- The program of a pattern. The whole match is group 0. -/
def Node.program (n : Node) : Program := (Node.emit (.capture 0 n) #[]).push .accept

end PagePreview.Pattern
