import PagePreview.Pattern.Node
import PagePreview.Pattern.Property

/-!
# What a pattern matches

The flags of a pattern are applied to its tree from left to right; a flag group acts up to the end
of the group it stands in. Where letters match in either case, every set is closed under case
before it is negated or combined.
-/

namespace PagePreview.Pattern

/-! ## Applying the flags -/

/-- Apply one setting. The flag for white space was dealt with in reading. -/
def Flags.apply (f : Flags) (s : Setting) : Flags :=
  if s.letter = 'i' then { f with ignoreCase := s.value }
  else if s.letter = 'm' then { f with multiLine := s.value }
  else if s.letter = 's' then { f with dotAll := s.value }
  else if s.letter = 'U' then { f with swapGreed := s.value }
  else if s.letter = 'u' then { f with unicode := s.value }
  else if s.letter = 'R' then { f with crlf := s.value }
  else f

/-- Apply settings in order. -/
def Flags.applyAll (f : Flags) (settings : List Setting) : Flags := settings.foldl Flags.apply f

/-- Close a set under case if case is ignored. -/
def Flags.fold (f : Flags) (s : CharSet) : CharSet :=
  if f.ignoreCase then if f.unicode then s.foldCase else s.foldAsciiCase else s

/-- Close under case, then negate. Without Unicode classes, a set that reaches beyond ASCII could
match a part of a character and is refused. -/
def Flags.close? (f : Flags) (negated : Bool) (s : CharSet) : Option CharSet :=
  let s := f.fold s
  let s := if negated then s.complement else s
  if f.unicode ∨ s.isAscii then some s else none

/-- The members of a class such as `[:alpha:]`. -/
def asciiClass (name : String) : CharSet :=
  if name = "alnum" then [(0x30, 0x39), (0x41, 0x5A), (0x61, 0x7A)]
  else if name = "alpha" then [(0x41, 0x5A), (0x61, 0x7A)]
  else if name = "ascii" then [(0, 0x7F)]
  else if name = "blank" then [(0x9, 0x9), (0x20, 0x20)]
  else if name = "cntrl" then [(0, 0x1F), (0x7F, 0x7F)]
  else if name = "digit" then [(0x30, 0x39)]
  else if name = "graph" then [(0x21, 0x7E)]
  else if name = "lower" then [(0x61, 0x7A)]
  else if name = "print" then [(0x20, 0x7E)]
  else if name = "punct" then [(0x21, 0x2F), (0x3A, 0x40), (0x5B, 0x60), (0x7B, 0x7E)]
  else if name = "space" then [(0x9, 0xD), (0x20, 0x20)]
  else if name = "upper" then [(0x41, 0x5A)]
  else if name = "word" then [(0x30, 0x39), (0x41, 0x5A), (0x5F, 0x5F), (0x61, 0x7A)]
  else [(0x30, 0x39), (0x41, 0x46), (0x61, 0x66)]

/-- Word characters of Unicode. -/
def unicodeWord : CharSet := CharSet.ofIntervals Unicode.wordCharacters

/-- Digits of Unicode. -/
def unicodeDigit : CharSet := CharSet.ofIntervals Unicode.decimalDigits

/-- White space of Unicode. -/
def unicodeBlank : CharSet := CharSet.ofIntervals Unicode.blanks

/-- The members of a class of a single letter. These sets are closed under case as they are. -/
def PerlClass.set (unicode : Bool) : PerlClass → CharSet
  | .digit => if unicode then unicodeDigit else asciiClass "digit"
  | .blank => if unicode then unicodeBlank else asciiClass "space"
  | .word => if unicode then unicodeWord else asciiClass "word"

/-- A class of a single letter under flags. -/
def Flags.perl? (f : Flags) (negated : Bool) (cls : PerlClass) : Option CharSet :=
  let s := cls.set f.unicode
  let s := if negated then s.complement else s
  if f.unicode ∨ s.isAscii then some s else none

/-- A class of a Unicode property under flags; there is none without Unicode classes. -/
def Flags.property? (f : Flags) (negated : Bool) (query : PropertyQuery) : Option CharSet :=
  if f.unicode then query.set?.bind (f.close? negated) else none

/-- A character in brackets. Without Unicode classes it has to be ASCII. -/
def Flags.member? (f : Flags) (l : Literal) : Option Nat :=
  if f.unicode ∨ l.char.toNat < 0x80 then some l.char.toNat else none

/-- The set of an operation. -/
def SetOp.apply : SetOp → CharSet → CharSet → CharSet
  | .inter, s, t => s.inter t
  | .diff, s, t => s.diff t
  | .symmDiff, s, t => s.symmDiff t

mutual

/-- The members of a bracket's contents. -/
def ClassExpr.set? (f : Flags) : ClassExpr → Option CharSet
  | .literal l => (f.member? l).map fun n => [(n, n)]
  | .range low high => do
    let a ← f.member? low
    let b ← f.member? high
    return [(a, b)]
  | .ascii negated name => f.close? negated (asciiClass name)
  | .property negated query => f.property? negated query
  | .perl negated cls => f.perl? negated cls
  | .bracket negated body => (body.set? f).bind (f.close? negated)
  | .union items => ClassExpr.unionSet? f items
  | .op kind left right => do
    let s ← left.set? f
    let t ← right.set? f
    return kind.apply (f.fold s) (f.fold t)

/-- The members of any of several. -/
def ClassExpr.unionSet? (f : Flags) : List ClassExpr → Option CharSet
  | [] => some []
  | e :: rest => do
    let s ← e.set? f
    let t ← ClassExpr.unionSet? f rest
    return s.union t

end

/-- A character outside brackets. A letter that has other cases becomes the set of them. -/
def Flags.literal? (f : Flags) (l : Literal) : Option Node :=
  if !f.unicode ∧ l.byte ∧ 0x80 ≤ l.char.toNat then none
  else some (.ofSet (f.fold (CharSet.single l.char)))

/-- The dot under flags. Without Unicode classes it could match a part of a character. -/
def Flags.dot? (f : Flags) : Option Node :=
  if !f.unicode then none
  else if f.dotAll then some (.set CharSet.full)
  else if f.crlf then some (.set (CharSet.complement [(0xA, 0xA), (0xD, 0xD)]))
  else some (.set (CharSet.complement [(0xA, 0xA)]))

/-- A condition under flags. -/
def Flags.look (f : Flags) : Anchor → Look
  | .lineStart => if f.multiLine then .lineStart f.crlf else .textStart
  | .lineEnd => if f.multiLine then .lineEnd f.crlf else .textEnd
  | .textStart => .textStart
  | .textEnd => .textEnd
  | .boundary => .boundary f.unicode
  | .noBoundary => .noBoundary f.unicode
  | .wordStart => .wordStart f.unicode
  | .wordEnd => .wordEnd f.unicode
  | .wordStartHalf => .wordStartHalf f.unicode
  | .wordEndHalf => .wordEndHalf f.unicode

mutual

/-- The meaning of a tree under flags, and the flags in force after it. -/
def Ast.meaning? (f : Flags) : Ast → Option (Node × Flags)
  | .empty => some (.empty, f)
  | .flags settings => some (.empty, f.applyAll settings)
  | .literal l => (f.literal? l).map fun n => (n, f)
  | .dot => f.dot?.map fun n => (n, f)
  | .anchor a => some (.look (f.look a), f)
  | .property negated query => (f.property? negated query).map fun s => (.ofSet s, f)
  | .perl negated cls => (f.perl? negated cls).map fun s => (.ofSet s, f)
  | .bracket negated body =>
    ((body.set? f).bind (f.close? negated)).map fun s => (.ofSet s, f)
  | .repetition min max greedy sub => do
    let (n, f) ← sub.meaning? f
    return (.ofRepetition min max (greedy != f.swapGreed) n, f)
  | .capture index sub => do
    let (n, _) ← sub.meaning? f
    return (.capture index n, f)
  | .group settings sub => do
    let (n, _) ← sub.meaning? (f.applyAll settings)
    return (n, f)
  | .concat items => do
    let (ns, f) ← Ast.meanings? f items
    return (.ofConcat ns, f)
  | .choice items => do
    let (ns, f) ← Ast.meanings? f items
    return (.ofChoice ns, f)

/-- The meanings of several trees, from left to right. -/
def Ast.meanings? (f : Flags) : List Ast → Option (List Node × Flags)
  | [] => some ([], f)
  | a :: rest => do
    let (n, f) ← a.meaning? f
    let (ns, f) ← Ast.meanings? f rest
    return (n :: ns, f)

end

end PagePreview.Pattern
