import PagePreview.Decimal.Binary64
import PagePreview.Text.Ascii
import PagePreview.Toml.Table

/-!
# Reading configuration documents

The grammar of TOML 1.0. A document is a sequence of lines: headers of tables, settings, comments
and blank lines. Only values that the grammar allows are read; in particular a floating-point
number has to be finite, a date has to exist, and arrays and inline tables nest less than 80 deep.
-/

namespace PagePreview.Toml

/-- Reading a part of a document, which may fail. -/
abbrev Reader := StateT (List Char) Option

namespace Reader

/-- The document is not well formed. -/
def refuse {α : Type} : Reader α := fun _ => none

/-- Go on only if the condition holds. -/
def require (b : Bool) : Reader Unit := fun cs => if b then some ((), cs) else none

/-- The next character. -/
def peek : Reader (Option Char) := fun cs => some (cs.head?, cs)

/-- Take the next character. -/
def next : Reader Char := fun cs =>
  match cs with
  | c :: rest => some (c, rest)
  | [] => none

/-- Take characters while they satisfy a test. -/
def takeWhile (p : Char → Bool) : Reader (List Char) := fun cs => some (cs.span p)

/-- Take a given text. -/
def expect (s : String) : Reader Unit := fun cs =>
  if cs.take s.length = s.toList then some ((), cs.drop s.length) else none

/-- Take a given text if it is next. -/
def accept (s : String) : Reader Bool := fun cs =>
  if cs.take s.length = s.toList then some (true, cs.drop s.length) else some (false, cs)

/-- Try something, and take nothing if it fails. -/
def attempt {α : Type} (r : Reader α) : Reader (Option α) := fun cs =>
  match r cs with
  | some (a, rest) => some (some a, rest)
  | none => some (none, cs)

end Reader

open Reader

/-- The most levels of arrays and inline tables, and the most parts of a key, plus one. -/
def depthLimit : Nat := 80

/-! ## Blanks and comments -/

/-- Blanks inside a line. -/
def isInlineBlank (c : Char) : Bool := c == ' ' || c == '\t'

/-- Skip blanks. -/
def blanks : Reader Unit := do
  let _ ← takeWhile isInlineBlank

/-- A character that may stand in a comment. -/
def isPlain (c : Char) : Bool :=
  c == '\t' || (0x20 ≤ c.toNat && c.toNat ≤ 0x7E) || 0x80 ≤ c.toNat

/-- A line end: a line feed, or a carriage return and a line feed. -/
def newline : Reader Bool := do
  if ← accept "\n" then return true else accept "\r\n"

/-- Skip a comment, if one is next. -/
def comment : Reader Unit := do
  if (← peek) = some '#' then
    let _ ← takeWhile isPlain

/-- The end of a line, after blanks and a comment. -/
def lineEnd : Reader Unit := do
  blanks
  comment
  if (← peek).isNone then return
  require (← newline)

/-- Skip blanks, comments and line ends. -/
def spread : Nat → Reader Unit
  | 0 => refuse
  | fuel + 1 => do
    blanks
    comment
    if ← newline then spread fuel

/-! ## Strings -/

/-- The character with a code point written in so many hexadecimal digits. -/
def hexEscape : Nat → List Char → Reader Char
  | 0, acc => do
    let n := Ascii.valueOf 16 acc.reverse
    require (decide n.isValidChar)
    return Char.ofNat n
  | k + 1, acc => do
    let c ← next
    require (Ascii.hexValue? c).isSome
    hexEscape k (c :: acc)

/-- The character of an escape; the backslash has been taken. -/
def escaped : Reader Char := do
  let c ← next
  if c = 'b' then return '\x08'
  else if c = 't' then return '\t'
  else if c = 'n' then return '\n'
  else if c = 'f' then return '\x0c'
  else if c = 'r' then return '\r'
  else if c = '\x22' ∨ c = '\\' then return c
  else if c = 'u' then hexEscape 4 []
  else if c = 'U' then hexEscape 8 []
  else refuse

/-- A string in double quotes, after the first one; the characters read stand in reverse. -/
def basicString : Nat → List Char → Reader (List Char)
  | 0, _ => refuse
  | fuel + 1, acc => do
    let c ← next
    if c = '\x22' then return acc.reverse
    else if c = '\\' then basicString fuel ((← escaped) :: acc)
    else
      require (isPlain c)
      basicString fuel (c :: acc)

/-- A string in single quotes, after the first one. -/
def literalString : Reader (List Char) := do
  let cs ← takeWhile fun c => isPlain c && c != '\x27'
  expect "\x27"
  return cs

/-- Skip blanks and line ends. -/
def blankLines : Nat → Reader Unit
  | 0 => refuse
  | fuel + 1 => do
    blanks
    if ← newline then blankLines fuel

/-- How much may be left to read, as a bound for loops. -/
def left : Reader Nat := do return (← get).length + 2

/-- A backslash that ends a line hides the line end and all blanks up to the next character. -/
def hiddenLineEnd : Reader Bool := do
  let hidden ← attempt do
    blanks
    require (← newline)
    blankLines (← left)
  return hidden.isSome

/-- Quotes inside a string of several lines: up to two that are not followed by a third stand for
themselves, and three end the string, up to two more standing before them. -/
def quoteRun (quote : Char) : Reader (Nat × Bool) := do
  let run := (← get).takeWhile (· == quote)
  let n := run.length
  if n < 3 then
    set ((← get).drop n)
    return (n, false)
  else
    let inner := min (n - 3) 2
    set ((← get).drop (inner + 3))
    return (inner, true)

/-- A string of several lines, after its opening quotes. Escapes count between double quotes. -/
def longString (quote : Char) : Nat → List Char → Reader (List Char)
  | 0, _ => refuse
  | fuel + 1, acc => do
    match ← peek with
    | none => refuse
    | some c =>
      if c = quote then
        let (n, done) ← quoteRun quote
        let acc := List.replicate n quote ++ acc
        if done then return acc.reverse else longString quote fuel acc
      else if c = '\\' ∧ quote = '\x22' then
        let _ ← next
        if ← hiddenLineEnd then longString quote fuel acc
        else longString quote fuel ((← escaped) :: acc)
      else if ← newline then longString quote fuel ('\n' :: acc)
      else
        require (isPlain c)
        let _ ← next
        longString quote fuel (c :: acc)

/-- A string of any kind. -/
def stringValue : Reader String := do
  if ← accept "\x22\x22\x22" then
    let _ ← newline
    return String.ofList (← longString '\x22' (← left) [])
  else if ← accept "\x27\x27\x27" then
    let _ ← newline
    return String.ofList (← longString '\x27' (← left) [])
  else if ← accept "\x22" then return String.ofList (← basicString (← left) [])
  else
    expect "\x27"
    return String.ofList (← literalString)

/-! ## Keys -/

/-- A character of a key without quotes. -/
def isBareChar (c : Char) : Bool := Ascii.isAlphanumeric c || c == '_' || c == '-'

/-- One part of a key. -/
def simpleKey : Reader String := do
  match ← peek with
  | some '\x22' =>
    expect "\x22"
    return String.ofList (← basicString (← left) [])
  | some '\x27' =>
    expect "\x27"
    return String.ofList (← literalString)
  | _ =>
    let cs ← takeWhile isBareChar
    require !cs.isEmpty
    return String.ofList cs

/-- A key of one or more parts, with blanks around them. -/
def keyParts : Nat → Reader (List String)
  | 0 => refuse
  | fuel + 1 => do
    blanks
    let k ← simpleKey
    blanks
    if ← accept "." then return k :: (← keyParts fuel) else return [k]

/-- A key of fewer parts than the limit. -/
def key : Reader (List String) := keyParts (depthLimit - 1)

/-! ## Numbers and dates -/

/-- Digits, with single underscores between them. -/
def digitRun (isDigit : Char → Bool) : Nat → Reader (List Char)
  | 0 => refuse
  | fuel + 1 => do
    let c ← next
    require (isDigit c)
    match ← get with
    | '_' :: rest =>
      set rest
      return c :: (← digitRun isDigit fuel)
    | d :: _ => if isDigit d then return c :: (← digitRun isDigit fuel) else return [c]
    | [] => return [c]

/-- Take a sign, if one is next. -/
def sign : Reader (List Char) := do
  if ← accept "-" then return ['-']
  else if ← accept "+" then return ['+']
  else return []

/-- Decimal digits that do not start with a zero, or a zero alone. -/
def plainDigits : Reader (List Char) := do
  if (← peek) = some '0' then
    let c ← next
    return [c]
  else digitRun Ascii.isDigit (← left)

/-- A value within 64 bits with a sign. -/
def integerOf? (negative : Bool) (n : Nat) : Option Toml :=
  if negative then if n ≤ 0x8000000000000000 then some (.integer (-(n : Int))) else none
  else if n < 0x8000000000000000 then some (.integer n) else none

/-- A value read, or a failure. -/
def given (v : Option Toml) : Reader Toml := fun cs => v.map fun v => (v, cs)

/-- An integer with a base mark. -/
def basedInteger (base : Nat) : Reader Toml := do
  let isDigit (c : Char) : Bool :=
    if base = 16 then (Ascii.hexValue? c).isSome
    else '0' ≤ c && decide (c.toNat < 48 + base)
  let ds ← digitRun isDigit (← left)
  given (integerOf? false (Ascii.valueOf base ds))

/-- An integer. -/
def integerValue : Reader Toml := do
  if ← accept "0x" then basedInteger 16
  else if ← accept "0o" then basedInteger 8
  else if ← accept "0b" then basedInteger 2
  else
    let s ← sign
    let ds ← plainDigits
    given (integerOf? (s == ['-']) (Ascii.valueOf 10 ds))

/-- The exponent of a number, if it has one. -/
def exponent : Reader (Option Int) := do
  if (← accept "e") || (← accept "E") then
    let s ← sign
    let n := Ascii.valueOf 10 (← digitRun Ascii.isDigit (← left))
    return some (if s == ['-'] then -(n : Int) else n)
  else return none

/-- A floating-point number. -/
def floatValue : Reader Toml := do
  let start ← get
  let s ← sign
  let textTo (rest : List Char) : String := String.ofList (start.take (start.length - rest.length))
  if (← accept "inf") || (← accept "nan") then return .float (textTo (← get))
  let whole ← plainDigits
  let fraction ← if ← accept "." then some <$> digitRun Ascii.isDigit (← left) else pure none
  let e ← exponent
  require (fraction.isSome || e.isSome)
  let n := Ascii.valueOf 10 (whole ++ fraction.getD [])
  require (s == ['-'] || (Binary64.ofDecimal? n (e.getD 0 - (fraction.getD []).length)).isSome)
  return .float (textTo (← get))

/-- Exactly so many decimal digits. -/
def fixedDigits : Nat → List Char → Reader Nat
  | 0, acc => return Ascii.valueOf 10 acc.reverse
  | n + 1, acc => do
    let c ← next
    require (Ascii.isDigit c)
    fixedDigits n (c :: acc)

/-- The number of days of a month. -/
def daysIn (year month : Nat) : Nat :=
  if month = 2 then
    if year % 4 = 0 ∧ (year % 100 ≠ 0 ∨ year % 400 = 0) then 29 else 28
  else if month = 4 ∨ month = 6 ∨ month = 9 ∨ month = 11 then 30
  else 31

/-- A date that exists. -/
def dateOnly : Reader Unit := do
  let year ← fixedDigits 4 []
  expect "-"
  let month ← fixedDigits 2 []
  require (1 ≤ month && month ≤ 12)
  expect "-"
  let day ← fixedDigits 2 []
  require (1 ≤ day && decide (day ≤ daysIn year month))

/-- A time of day; a second may be a leap second. -/
def timeOnly : Reader Unit := do
  let hour ← fixedDigits 2 []
  expect ":"
  let minute ← fixedDigits 2 []
  expect ":"
  let second ← fixedDigits 2 []
  require (hour ≤ 23 && minute ≤ 59 && second ≤ 60)
  match ← get with
  | '.' :: d :: _ =>
    if Ascii.isDigit d then
      let _ ← next
      let _ ← takeWhile Ascii.isDigit
  | _ => return

/-- The distance from universal time. -/
def offset : Reader Unit := do
  if (← accept "Z") || (← accept "z") then return
  require ((← accept "+") || (← accept "-"))
  let hour ← fixedDigits 2 []
  expect ":"
  let minute ← fixedDigits 2 []
  require (hour ≤ 23 && minute ≤ 59)

/-- Whether the next characters begin a time. -/
def timeFollows : List Char → Bool
  | a :: b :: ':' :: _ => Ascii.isDigit a && Ascii.isDigit b
  | _ => false

/-- A date, a time or both. -/
def dateValue : Reader Toml := do
  let start ← get
  if timeFollows start then timeOnly
  else
    dateOnly
    match ← get with
    | t :: rest =>
      if (t = 'T' ∨ t = 't' ∨ t = ' ') ∧ timeFollows rest then
        let _ ← next
        timeOnly
        match ← peek with
        | some c => if c = 'Z' ∨ c = 'z' ∨ c = '+' ∨ c = '-' then offset
        | none => pure ()
    | [] => pure ()
  let rest ← get
  return .date (String.ofList (start.take (start.length - rest.length)))

/-- Whether the next characters begin a date or a time. -/
def dateFollows : List Char → Bool
  | a :: b :: c :: d :: '-' :: _ => [a, b, c, d].all Ascii.isDigit
  | cs => timeFollows cs

/-- A number or a date. -/
def numberOrDate : Reader Toml := do
  if dateFollows (← get) then dateValue
  else
    match ← attempt floatValue with
    | some v => return v
    | none => integerValue

/-! ## Values -/

/-- Put the settings of an inline table together. -/
def inlineTable? (settings : List (List String × Toml)) : Option Toml :=
  (settings.foldlM (fun (es : Entries) (s : List String × Toml) =>
    setValue s.1.dropLast (s.1.getLastD "") s.2 es) []).map fun es => .table (closeAll es)

mutual

/-- A value; `depth` is how many more levels may open. -/
def value : Nat → Nat → Reader Toml
  | 0, _ => refuse
  | fuel + 1, depth => do
    match ← peek with
    | none => refuse
    | some c =>
      if c = '\x22' ∨ c = '\x27' then return .string (← stringValue)
      else if c = '[' then
        require (1 < depth)
        let _ ← next
        return .array (← arrayItems fuel (depth - 1))
      else if c = '\x7b' then
        require (1 < depth)
        let _ ← next
        blanks
        if ← accept "\x7d" then return .table []
        given (inlineTable? (← inlineSettings fuel (depth - 1)))
      else if c = 't' then
        expect "true"
        return .boolean true
      else if c = 'f' then
        expect "false"
        return .boolean false
      else if c = 'i' ∨ c = 'n' then floatValue
      else numberOrDate

/-- The items of an array, up to its closing bracket. -/
def arrayItems : Nat → Nat → Reader (List Toml)
  | 0, _ => refuse
  | fuel + 1, depth => do
    spread (← left)
    if ← accept "]" then return []
    let v ← value fuel depth
    spread (← left)
    if ← accept "," then return v :: (← arrayItems fuel depth)
    expect "]"
    return [v]

/-- The settings of an inline table that has at least one more, up to its closing brace. -/
def inlineSettings : Nat → Nat → Reader (List (List String × Toml))
  | 0, _ => refuse
  | fuel + 1, depth => do
    let k ← key
    expect "="
    blanks
    let v ← value fuel depth
    blanks
    if ← accept "," then return (k, v) :: (← inlineSettings fuel depth)
    expect "\x7d"
    return [(k, v)]

end

/-! ## Documents -/

/-- A document as far as it has been read. -/
structure Draft where
  /-- The members of the document. -/
  root : Entries
  /-- The path of the table that settings go to. -/
  path : List String

/-- Set a value in the table that settings go to. -/
def Draft.assign (d : Draft) (k : List String) (v : Toml) : Option Draft :=
  (descend false (fun _ es => setValue k.dropLast (k.getLastD "") v es) d.path .header d.root).map
    fun root => { d with root }

/-- Begin a table, or the next table of an array. -/
def Draft.begin (d : Draft) (next : Bool) (k : List String) : Option Draft :=
  let last := k.getLastD ""
  (descend false (if next then openNext last else openTable last) k.dropLast .header d.root).map
    fun root => ⟨root, k⟩

/-- A draft read, or a failure. -/
def drafted (d : Option Draft) : Reader Draft := fun cs => d.map fun d => (d, cs)

/-- The lines of a document. -/
def lines : Nat → Draft → Reader Draft
  | 0, _ => refuse
  | fuel + 1, d => do
    blanks
    match ← peek with
    | none => return d
    | some c =>
      if c = '#' ∨ c = '\n' ∨ c = '\r' then
        lineEnd
        lines fuel d
      else if ← accept "[[" then
        let k ← key
        expect "]]"
        let d ← drafted (d.begin true k)
        lineEnd
        lines fuel d
      else if ← accept "[" then
        let k ← key
        expect "]"
        let d ← drafted (d.begin false k)
        lineEnd
        lines fuel d
      else
        let k ← key
        expect "="
        blanks
        let v ← value (← left) depthLimit
        let d ← drafted (d.assign k v)
        lineEnd
        lines fuel d

/-- Read a document; a byte order mark in front is ignored. -/
def parse? (text : String) : Option (List (String × Toml)) :=
  let cs := match text.toList with
    | '\uFEFF' :: rest => rest
    | cs => cs
  match lines (cs.length + 2) ⟨[], []⟩ cs with
  | some (d, _) => some (closeAll d.root)
  | none => none

end PagePreview.Toml
