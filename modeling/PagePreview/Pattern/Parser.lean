import PagePreview.Pattern.Syntax
import PagePreview.Unicode.Alphanumeric

/-!
# Reading patterns

A pattern is read from left to right. In the mode of the flag `x`, white space and comments between
the parts of a pattern are skipped. Look-around and back-references are refused, and so is any
escape that has no meaning.
-/

namespace PagePreview.Pattern

/-- How far a pattern has been read. -/
structure Cursor where
  /-- What is left to read. -/
  rest : List Char
  /-- White space and comments are skipped. -/
  spaced : Bool
  /-- Captures opened so far. -/
  captures : Nat
  /-- The names given to captures so far. -/
  names : List (List Char)

/-- Reading a part of a pattern, which may fail. -/
abbrev Reader := StateT Cursor Option

namespace Reader

/-- The pattern is not well formed. -/
def refuse {α : Type} : Reader α := fun _ => none

/-- Go on only if the condition holds. -/
def require (b : Bool) : Reader Unit := fun cur => if b then some ((), cur) else none

/-- What is left to read. -/
def rest : Reader (List Char) := fun cur => some (cur.rest, cur)

/-- The next character. -/
def peek : Reader (Option Char) := fun cur => some (cur.rest.head?, cur)

/-- The next character; there has to be one. -/
def current : Reader Char := fun cur => cur.rest.head?.map fun c => (c, cur)

/-- Go past some characters. -/
def skip (n : Nat) : Reader Unit := fun cur => some ((), { cur with rest := cur.rest.drop n })

/-- White space and comments at the front removed. A comment runs to the end of its line. -/
def dropSpace : Bool → List Char → List Char
  | _, [] => []
  | true, c :: cs => dropSpace (c != '\n') cs
  | false, c :: cs =>
    if Text.isBlank c then dropSpace false cs
    else if c = '#' then dropSpace true cs
    else c :: cs

/-- Skip white space and comments where they are to be skipped. -/
def space : Reader Unit := fun cur =>
  some ((), if cur.spaced then { cur with rest := dropSpace false cur.rest } else cur)

/-- Go past one character and the space after it. -/
def advance : Reader Unit := do
  skip 1
  space

/-- Go past one character and the space after it; something has to follow. -/
def advanceTo : Reader Char := do
  advance
  current

end Reader

open Reader

/-- A character with a meaning in patterns. -/
def isMeta (c : Char) : Bool := "\\.+*?()|[]\x7b\x7d^$#&-~".toList.contains c

/-- A character that may follow a backslash and then stands for itself. -/
def isEscapable (c : Char) : Bool :=
  c.toNat < 0x80 && !Ascii.isAlphanumeric c && c != '<' && c != '>'

/-! ## Numbers and hexadecimal escapes -/

/-- Digits, with the space that may stand between them. -/
def digits : Nat → List Char → Reader (List Char)
  | 0, _ => refuse
  | fuel + 1, acc => do
    match ← peek with
    | some c => if Ascii.isDigit c then advance; digits fuel (c :: acc) else return acc.reverse
    | none => return acc.reverse

/-- Skip white space in every mode. -/
def skipBlanks : Reader Unit := fun cur =>
  some ((), { cur with rest := cur.rest.dropWhile Text.isBlank })

/-- A count of a repetition: decimal digits with white space around them, below `2 ^ 32`. -/
def count : Reader (Option Nat) := do
  skipBlanks
  let ds ← digits ((← rest).length + 1) []
  skipBlanks
  if ds.isEmpty then return none
  let n := Ascii.valueOf 10 ds
  require (n < 0x100000000)
  return some n

/-- The character with a code point; surrogates have none. -/
def charOf? (n : Nat) : Option Char :=
  if n.isValidChar then some (Char.ofNat n) else none

/-- Exactly so many hexadecimal digits. -/
def hexDigits : Nat → List Char → Reader (List Char)
  | 0, acc => return acc.reverse
  | n + 1, acc => do
    let c ← current
    require (Ascii.hexValue? c).isSome
    advance
    hexDigits n (c :: acc)

/-- Hexadecimal digits up to a closing brace. -/
def bracedHex : Nat → List Char → Reader (List Char)
  | 0, _ => refuse
  | fuel + 1, acc => do
    let c ← advanceTo
    if c = '\x7d' then
      advance
      return acc.reverse
    else
      require (Ascii.hexValue? c).isSome
      bracedHex fuel (c :: acc)

/-- A character given by its code point; the letter after the backslash is next. -/
def hexLiteral (letter : Char) : Reader Literal := do
  let width := if letter = 'x' then 2 else if letter = 'u' then 4 else 8
  let c ← advanceTo
  let braced := c == '\x7b'
  let ds ← if braced then do bracedHex ((← rest).length + 1) [] else hexDigits width []
  require (!ds.isEmpty)
  match charOf? (Ascii.valueOf 16 ds) with
  | some c => return ⟨c, !braced && letter == 'x'⟩
  | none => refuse

/-! ## Escapes -/

/-- What one escape or one plain character stands for. -/
inductive Primitive where
  /-- A character. -/
  | literal (c : Literal)
  /-- A condition on the position. -/
  | anchor (a : Anchor)
  /-- A Unicode property. -/
  | property (negated : Bool) (query : PropertyQuery)
  /-- A class of a single letter. -/
  | perl (negated : Bool) (cls : PerlClass)

/-- Cut a list before the first occurrence of a part, and drop that part. -/
def cutAt (part : List Char) : List Char → Option (List Char × List Char)
  | [] => none
  | c :: cs =>
    if (c :: cs).take part.length = part then some ([], (c :: cs).drop part.length)
    else (cutAt part cs).map fun (front, back) => (c :: front, back)

/-- Characters up to a closing brace, without the space between them. -/
def bracedName : Nat → List Char → Reader (List Char)
  | 0, _ => refuse
  | fuel + 1, acc => do
    let c ← advanceTo
    if c = '\x7d' then
      skip 1
      return acc.reverse
    else bracedName fuel (c :: acc)

/-- The property between braces: a name, or a name and a value. -/
def queryOf (name : List Char) : Bool × PropertyQuery :=
  match cutAt ['!', '='] name with
  | some (n, v) => (true, .valued (String.ofList n) (String.ofList v))
  | none =>
    match (cutAt [':'] name).or (cutAt ['='] name) with
    | some (n, v) => (false, .valued (String.ofList n) (String.ofList v))
    | none => (false, .named (String.ofList name))

/-- A class of a Unicode property; the letter `p` or `P` is next. -/
def propertyClass : Reader Primitive := do
  let negated := (← current) == 'P'
  let c ← advanceTo
  if c = '\x7b' then
    let name ← bracedName ((← rest).length + 1) []
    let (unequal, query) := queryOf name
    return .property (negated != unequal) query
  else
    require (c != '\\')
    advance
    return .property negated (.named (String.singleton c))

/-- The conditions that can be written in braces after `\b`. -/
def namedBoundary (name : List Char) : Option Anchor :=
  if name = "start".toList then some .wordStart
  else if name = "end".toList then some .wordEnd
  else if name = "start-half".toList then some .wordStartHalf
  else if name = "end-half".toList then some .wordEndHalf
  else none

/-- A letter of a boundary's name. -/
def isBoundaryChar (c : Char) : Bool := Ascii.isLetter c || c == '-'

/-- The name of a boundary up to its closing brace. -/
def boundaryName : Nat → List Char → Reader (List Char)
  | 0, _ => refuse
  | fuel + 1, acc => do
    let c ← current
    if isBoundaryChar c then
      advance
      boundaryName fuel (c :: acc)
    else
      require (c == '\x7d')
      skip 1
      return acc.reverse

/-- What follows `\b`: a name in braces, or nothing that belongs to it. A brace before anything
but a letter or a hyphen opens a repetition. -/
def boundary : Reader Anchor := do
  match ← peek with
  | some '\x7b' =>
    let before ← get
    let c ← advanceTo
    if isBoundaryChar c then
      match namedBoundary (← boundaryName ((← rest).length + 1) []) with
      | some a => return a
      | none => refuse
    else
      set before
      return .boundary
  | _ => return .boundary

/-- The control character that a letter stands for. -/
def controlOf? (c : Char) : Option Char :=
  if c = 'a' then some '\x07'
  else if c = 'f' then some '\x0c'
  else if c = 't' then some '\t'
  else if c = 'n' then some '\n'
  else if c = 'r' then some '\r'
  else if c = 'v' then some '\x0b'
  else none

/-- The class that a letter stands for, and whether it is negated. -/
def perlOf? (c : Char) : Option (Bool × PerlClass) :=
  if c = 'd' then some (false, .digit)
  else if c = 'D' then some (true, .digit)
  else if c = 's' then some (false, .blank)
  else if c = 'S' then some (true, .blank)
  else if c = 'w' then some (false, .word)
  else if c = 'W' then some (true, .word)
  else none

/-- The condition that a letter or angle bracket stands for. -/
def anchorOf? (c : Char) : Option Anchor :=
  if c = 'A' then some .textStart
  else if c = 'z' then some .textEnd
  else if c = 'B' then some .noBoundary
  else if c = '<' then some .wordStart
  else if c = '>' then some .wordEnd
  else none

/-- An escape; the backslash is next. -/
def escape : Reader Primitive := do
  skip 1
  let c ← current
  if c = 'x' ∨ c = 'u' ∨ c = 'U' then
    return .literal (← hexLiteral c)
  else if c = 'p' ∨ c = 'P' then propertyClass
  else
    skip 1
    match perlOf? c, controlOf? c, anchorOf? c with
    | some (negated, cls), _, _ => return .perl negated cls
    | none, some k, _ => return .literal ⟨k, false⟩
    | none, none, some a => return .anchor a
    | none, none, none =>
      if c = 'b' then return .anchor (← boundary)
      else if isMeta c || isEscapable c then return .literal ⟨c, false⟩
      else refuse

/-! ## Brackets -/

/-- The names of classes such as `[:alpha:]`. -/
def asciiClassNames : List String :=
  ["alnum", "alpha", "ascii", "blank", "cntrl", "digit", "graph", "lower", "print", "punct",
    "space", "upper", "word", "xdigit"]

/-- A named class at the front of brackets; the bracket that opens it is next. Anything else there
is left for other brackets. -/
def namedClass : Reader (Option ClassExpr) := do
  match ← rest with
  | '[' :: ':' :: inner =>
    let (negated, inner) := match inner with
      | '^' :: inner => (true, inner)
      | _ => (false, inner)
    let (name, tail) := inner.span (· != ':')
    match tail with
    | ':' :: ']' :: after =>
      if asciiClassNames.contains (String.ofList name) then
        modify fun cur => { cur with rest := after }
        return some (.ascii negated (String.ofList name))
      else return none
    | _ => return none
  | _ => return none

/-- One character or escape inside brackets. -/
def classPrimitive : Reader Primitive := do
  let c ← current
  if c = '\\' then escape
  else
    skip 1
    return .literal ⟨c, false⟩

/-- A primitive as a member of brackets. -/
def Primitive.item : Primitive → Reader ClassExpr
  | .literal c => return .literal c
  | .property negated query => return .property negated query
  | .perl negated cls => return .perl negated cls
  | .anchor _ => refuse

/-- A text without the blanks at its front, one number sign among them, and the blanks after it. -/
def dropMark (cs : List Char) : List Char :=
  match cs.dropWhile Text.isBlank with
  | '#' :: cs => cs.dropWhile Text.isBlank
  | cs => cs

/-- The character after the next one. Where space is skipped, this is the first one that is no
blank; of a comment only the number sign is passed over, so its text counts. Where nothing else
follows, it is the character that stands there. -/
def peekPast : Reader (Option Char) := fun cur =>
  let after := cur.rest.drop 1
  some ((if cur.spaced then (dropMark after).head?.or after.head? else after.head?), cur)

/-- A member of brackets, or an interval of members. -/
def classItem : Reader ClassExpr := do
  let first ← classPrimitive
  space
  let c ← current
  let past ← peekPast
  if c ≠ '-' ∨ past = some ']' ∨ past = some '-' then first.item
  else
    let _ ← advanceTo
    match first, ← classPrimitive with
    | .literal low, .literal high =>
      require (low.char ≤ high.char)
      return .range low high
    | _, _ => refuse

/-- Hyphens at the front of brackets stand for themselves. -/
def leadingHyphens : Nat → List ClassExpr → Reader (List ClassExpr)
  | 0, _ => refuse
  | fuel + 1, acc => do
    if (← current) = '-' then
      let _ ← advanceTo
      leadingHyphens fuel (.literal ⟨'-', false⟩ :: acc)
    else return acc

/-- The front of brackets: whether they are negated, and members that stand for themselves there.
The opening bracket is next. -/
def classOpen : Reader (Bool × List ClassExpr) := do
  let c ← advanceTo
  let negated := c == '^'
  if negated then
    let _ ← advanceTo
  let items ← leadingHyphens ((← rest).length + 1) []
  if items.isEmpty && (← current) == ']' then
    let _ ← advanceTo
    return (negated, [.literal ⟨']', false⟩])
  else return (negated, items)

/-- What stands before a set operator, joined with what follows it. -/
def applyOp (left : Option (SetOp × ClassExpr)) (items : List ClassExpr) : ClassExpr :=
  let right := ClassExpr.ofItems items.reverse
  match left with
  | some (kind, left) => .op kind left right
  | none => right

/-- The set operator at the front, if there is one. -/
def setOpOf? : List Char → Option SetOp
  | '&' :: '&' :: _ => some .inter
  | '-' :: '-' :: _ => some .diff
  | '~' :: '~' :: _ => some .symmDiff
  | _ => none

/-- The rest of brackets up to the closing one; the members read stand in reverse. -/
def classBody : Nat → Option (SetOp × ClassExpr) → List ClassExpr → Reader ClassExpr
  | 0, _, _ => refuse
  | fuel + 1, left, items => do
    space
    let cs ← rest
    match cs.head? with
    | none => refuse
    | some '[' =>
      match ← namedClass with
      | some e => classBody fuel left (e :: items)
      | none =>
        let (negated, inner) ← classOpen
        let body ← classBody fuel none inner
        classBody fuel left (.bracket negated body :: items)
    | some ']' =>
      skip 1
      return applyOp left items
    | some _ =>
      match setOpOf? cs with
      | some kind =>
        skip 2
        classBody fuel (some (kind, applyOp left items)) []
      | none =>
        let e ← classItem
        classBody fuel left (e :: items)

/-- A bracket expression; its opening bracket is next. -/
def bracketClass : Reader Ast := do
  let (negated, items) ← classOpen
  let body ← classBody ((← rest).length + 2) none items
  return .bracket negated body

/-! ## Repetitions -/

/-- Take the last item of a sequence that a repetition applies to. -/
def popRepeatable : List Ast → Reader (Ast × List Ast)
  | [] => refuse
  | .empty :: _ => refuse
  | .flags _ :: _ => refuse
  | a :: rest => return (a, rest)

/-- Whether a question mark follows, which makes a repetition lazy. -/
def lazyMark : Reader Bool := do
  if (← peek) = some '?' then
    skip 1
    return true
  else return false

/-- A repetition by one character, which is next. -/
def shortRepetition (min : Nat) (max : Option Nat) (acc : List Ast) : Reader (List Ast) := do
  let (a, rest) ← popRepeatable acc
  skip 1
  let isLazy ← lazyMark
  return .repetition min max (!isLazy) a :: rest

/-- A repetition with counts; its opening brace is next. -/
def countedRepetition (acc : List Ast) : Reader (List Ast) := do
  let (a, rest) ← popRepeatable acc
  let _ ← advanceTo
  let first ← count
  let c ← current
  let (min, max) ←
    if c = ',' then do
      let c ← advanceTo
      match first with
      | none => refuse
      | some min =>
        if c = '\x7d' then pure (min, none)
        else match ← count with
          | none => refuse
          | some max => pure (min, some max)
    else match first with
      | none => refuse
      | some n => pure (n, some n)
  require ((← peek) == some '\x7d')
  advance
  let isLazy ← lazyMark
  require (match max with
    | some max => min ≤ max
    | none => true)
  return .repetition min max (!isLazy) a :: rest

/-! ## Groups -/

/-- The flags that can be set. -/
def isFlag (c : Char) : Bool := "imsUuRx".toList.contains c

/-- Flags up to a colon or closing parenthesis. No flag stands twice, nor a hyphen, and a hyphen
has a flag after it. -/
def flagItems : Nat → Bool → List Setting → Reader (List Setting)
  | 0, _, _ => refuse
  | fuel + 1, negated, acc => do
    let c ← current
    if c = ':' ∨ c = ')' then return acc.reverse
    else if c = '-' then
      require !negated
      skip 1
      let next ← current
      require (next != ':' && next != ')')
      flagItems fuel true acc
    else
      require (isFlag c && !acc.any (·.letter == c))
      skip 1
      flagItems fuel negated (⟨c, !negated⟩ :: acc)

/-- Give a number to the next capture. -/
def openCapture : Reader Nat := fun cur =>
  some (cur.captures + 1, { cur with captures := cur.captures + 1 })

/-- A character of a capture's name; `first` tells whether it is the first one. -/
def isNameChar (first : Bool) (c : Char) : Bool :=
  if first then c == '_' || Unicode.isAlphabetic c
  else c == '_' || c == '.' || c == '[' || c == ']' || Unicode.isAlphanumeric c

/-- A capture's name and the closing angle bracket. No two captures have one name. -/
def captureName : Reader Unit := do
  let cs ← rest
  let (name, tail) := cs.span (· != '>')
  require (!tail.isEmpty && !name.isEmpty)
  require ((name.take 1).all (isNameChar true) && (name.drop 1).all (isNameChar false))
  require !((← get).names.contains name)
  modify fun cur => { cur with rest := tail.drop 1, names := name :: cur.names }

/-- Whether a text starts with another. -/
def startsWith (cs : List Char) (front : String) : Bool :=
  cs.take front.length == front.toList

/-- How a group starts. -/
inductive Opening where
  /-- A group that captures. -/
  | capture (index : Nat)
  /-- A group that does not. -/
  | plain (settings : List Setting)
  /-- Flags for what follows, which is no group. -/
  | flags (settings : List Setting)

/-- The start of a group; its opening parenthesis is next. -/
def opening : Reader Opening := do
  skip 1
  space
  let cs ← rest
  require (["?=", "?!", "?<=", "?<!"].all fun mark => !startsWith cs mark)
  if startsWith cs "?P<" then
    skip 3
    let n ← openCapture
    captureName
    return .capture n
  else if startsWith cs "?<" then
    skip 2
    let n ← openCapture
    captureName
    return .capture n
  else if startsWith cs "?" then
    skip 1
    let settings ← flagItems ((← rest).length + 1) false []
    let stop ← current
    skip 1
    if stop = ')' then
      require !settings.isEmpty
      return .flags settings
    else return .plain settings
  else return .capture (← openCapture)

/-- What a list of settings says about the flag `x`. -/
def spacedBy (settings : List Setting) (otherwise : Bool) : Bool :=
  match settings.find? (·.letter == 'x') with
  | some s => s.value
  | none => otherwise

/-- Switch the skipping of white space. -/
def setSpaced (b : Bool) : Reader Unit := modify fun cur => { cur with spaced := b }

/-- One character, class or condition. -/
def primitive : Reader Ast := do
  let c ← current
  if c = '\\' then
    match ← escape with
    | .literal l => return .literal l
    | .anchor a => return .anchor a
    | .property negated query => return .property negated query
    | .perl negated cls => return .perl negated cls
  else
    skip 1
    if c = '.' then return .dot
    else if c = '^' then return .anchor .lineStart
    else if c = '$' then return .anchor .lineEnd
    else return .literal ⟨c, false⟩

mutual

/-- Choices separated by bars, up to a closing parenthesis or the end. -/
def choices : Nat → Reader (List Ast)
  | 0 => refuse
  | fuel + 1 => do
    let first ← sequence fuel []
    if (← peek) = some '|' then
      skip 1
      return first :: (← choices fuel)
    else return [first]

/-- Items side by side; those read stand in reverse. -/
def sequence : Nat → List Ast → Reader Ast
  | 0, _ => refuse
  | fuel + 1, acc => do
    space
    match ← peek with
    | none => return .ofItems acc.reverse
    | some '|' => return .ofItems acc.reverse
    | some ')' => return .ofItems acc.reverse
    | some '(' => do
      let a ← group fuel
      sequence fuel (a :: acc)
    | some '[' => do
      let a ← bracketClass
      sequence fuel (a :: acc)
    | some '?' => do sequence fuel (← shortRepetition 0 (some 1) acc)
    | some '*' => do sequence fuel (← shortRepetition 0 none acc)
    | some '+' => do sequence fuel (← shortRepetition 1 none acc)
    | some '\x7b' => do sequence fuel (← countedRepetition acc)
    | some _ => do
      let a ← primitive
      sequence fuel (a :: acc)

/-- A group; its opening parenthesis is next. -/
def group : Nat → Reader Ast
  | 0 => refuse
  | fuel + 1 => do
    let outer := (← get).spaced
    match ← opening with
    | .flags settings =>
      setSpaced (spacedBy settings outer)
      return .flags settings
    | .capture n =>
      let items ← choices fuel
      require ((← peek) == some ')')
      skip 1
      setSpaced outer
      return .capture n (.ofChoices items)
    | .plain settings =>
      setSpaced (spacedBy settings outer)
      let items ← choices fuel
      require ((← peek) == some ')')
      skip 1
      setSpaced outer
      return .group settings (.ofChoices items)

end

/-- The tree of a pattern, if it is well formed and nests no deeper than it may. -/
def Ast.parse? (pattern : String) : Option Ast :=
  let cs := pattern.toList
  match choices (4 * cs.length + 8) ⟨cs, false, 0, []⟩ with
  | some (items, cur) =>
    let ast := Ast.ofChoices items
    if cur.rest.isEmpty ∧ ast.depth ≤ nestLimit then some ast else none
  | none => none

end PagePreview.Pattern
