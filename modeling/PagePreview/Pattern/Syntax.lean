import PagePreview.Pattern.CharSet

/-!
# The written form of a pattern

The tree that a pattern spells, before flags are applied to it. How deep it nests is limited: every
group, repetition, sequence, choice, bracket expression and set operation is one level.
-/

namespace PagePreview.Pattern

/-- Switches that a pattern can set for the rest of a group. -/
structure Flags where
  /-- Letters match in either case. -/
  ignoreCase : Bool
  /-- The anchors also match at line ends. -/
  multiLine : Bool
  /-- The dot matches a line feed too. -/
  dotAll : Bool
  /-- Repetitions are lazy unless marked. -/
  swapGreed : Bool
  /-- Classes are those of Unicode. -/
  unicode : Bool
  /-- A line may end in a carriage return and a line feed. -/
  crlf : Bool
  deriving DecidableEq, Repr

/-- The flags at the start of a rule's pattern. -/
def Flags.initial : Flags := ⟨true, false, false, false, true, false⟩

/-- One flag of a flag group, with the value it is given. -/
structure Setting where
  /-- The flag's letter. -/
  letter : Char
  /-- Whether it is switched on. -/
  value : Bool
  deriving DecidableEq, Repr

/-- A condition on a position. -/
inductive Anchor where
  /-- `^` -/
  | lineStart
  /-- `$` -/
  | lineEnd
  /-- `\A` -/
  | textStart
  /-- `\z` -/
  | textEnd
  /-- `\b` -/
  | boundary
  /-- `\B` -/
  | noBoundary
  /-- `\<` -/
  | wordStart
  /-- `\>` -/
  | wordEnd
  /-- `\b` with `start-half` -/
  | wordStartHalf
  /-- `\b` with `end-half` -/
  | wordEndHalf
  deriving DecidableEq, Repr

/-- The classes of single letters. -/
inductive PerlClass where
  /-- `\d` -/
  | digit
  /-- `\s` -/
  | blank
  /-- `\w` -/
  | word
  deriving DecidableEq, Repr

/-- What a class of a Unicode property asks for. -/
inductive PropertyQuery where
  /-- A name on its own. -/
  | named (name : String)
  /-- A name and a value. -/
  | valued (name value : String)
  deriving DecidableEq, Repr

/-- A character as it is written. -/
structure Literal where
  /-- The character. -/
  char : Char
  /-- Written as `\x` and two digits, which stand for a byte where classes are not Unicode's. -/
  byte : Bool
  deriving DecidableEq, Repr

/-- Set operations inside brackets. -/
inductive SetOp where
  /-- `&&` -/
  | inter
  /-- `--` -/
  | diff
  /-- `~~` -/
  | symmDiff
  deriving DecidableEq, Repr

/-- The contents of brackets. -/
inductive ClassExpr where
  /-- One character. -/
  | literal (c : Literal)
  /-- An interval of characters. -/
  | range (low high : Literal)
  /-- A named class such as `[:alpha:]`. -/
  | ascii (negated : Bool) (name : String)
  /-- A Unicode property. -/
  | property (negated : Bool) (query : PropertyQuery)
  /-- A class of a single letter. -/
  | perl (negated : Bool) (cls : PerlClass)
  /-- Brackets inside brackets. -/
  | bracket (negated : Bool) (body : ClassExpr)
  /-- Any of several. -/
  | union (items : List ClassExpr)
  /-- A set operation. -/
  | op (kind : SetOp) (left right : ClassExpr)
  deriving Repr, Inhabited

/-- The tree of a pattern. -/
inductive Ast where
  /-- Matches the empty text. -/
  | empty
  /-- A flag group, which acts on what follows it. -/
  | flags (settings : List Setting)
  /-- A character. -/
  | literal (c : Literal)
  /-- `.` -/
  | dot
  /-- A condition on the position. -/
  | anchor (a : Anchor)
  /-- A Unicode property. -/
  | property (negated : Bool) (query : PropertyQuery)
  /-- A class of a single letter. -/
  | perl (negated : Bool) (cls : PerlClass)
  /-- A bracket expression. -/
  | bracket (negated : Bool) (body : ClassExpr)
  /-- A repetition, from `min` times up to `max` times or without limit. -/
  | repetition (min : Nat) (max : Option Nat) (greedy : Bool) (sub : Ast)
  /-- A group that captures, with its number. -/
  | capture (index : Nat) (sub : Ast)
  /-- A group with flags of its own. -/
  | group (settings : List Setting) (sub : Ast)
  /-- One after another. -/
  | concat (items : List Ast)
  /-- The first of several that leads to a match. -/
  | choice (items : List Ast)
  deriving Repr, Inhabited

/-- The deepest a pattern may nest. -/
def nestLimit : Nat := 250

mutual

/-- Levels of a bracket's contents. -/
def ClassExpr.depth : ClassExpr → Nat
  | .bracket _ body => body.depth + 1
  | .union [] => 0
  | .union (e :: rest) => ClassExpr.listDepth (e :: rest) + 1
  | .op _ left right => max left.depth right.depth + 1
  | _ => 0

/-- The greatest number of levels among several. -/
def ClassExpr.listDepth : List ClassExpr → Nat
  | [] => 0
  | e :: rest => max e.depth (ClassExpr.listDepth rest)

end

mutual

/-- Levels of a pattern. -/
def Ast.depth : Ast → Nat
  | .bracket _ body => body.depth + 1
  | .repetition _ _ _ sub => sub.depth + 1
  | .capture _ sub => sub.depth + 1
  | .group _ sub => sub.depth + 1
  | .concat items => Ast.listDepth items + 1
  | .choice items => Ast.listDepth items + 1
  | _ => 0

/-- The greatest number of levels among several. -/
def Ast.listDepth : List Ast → Nat
  | [] => 0
  | a :: rest => max a.depth (Ast.listDepth rest)

end

/-- Join what stands side by side. -/
def Ast.ofItems : List Ast → Ast
  | [] => .empty
  | [a] => a
  | items => .concat items

/-- Join what a bar separates. -/
def Ast.ofChoices : List Ast → Ast
  | [] => .empty
  | [a] => a
  | items => .choice items

/-- Join what stands side by side in brackets. -/
def ClassExpr.ofItems : List ClassExpr → ClassExpr
  | [e] => e
  | items => .union items

end PagePreview.Pattern
