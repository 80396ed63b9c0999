import PagePreview.Text.Ascii

/-!
# Request targets

A request target is a path with an optional query, an absolute URL, a bare authority, or the
asterisk. Its parts are kept as they were written, so a target is printed as it was read, except
that the schemes `http` and `https` are printed in lower case, an empty path after an authority is
printed as `/`, and a fragment is dropped.
-/

namespace PagePreview

/-- Why a text is no request target. -/
inductive TargetError where
  /-- There is no text, or none after a scheme. -/
  | empty
  /-- A character that may not stand where it does. -/
  | invalidCharacter
  /-- The parts do not make up one of the forms. -/
  | invalidFormat
  /-- An authority with misplaced brackets, colons, percent signs or user information. -/
  | invalidAuthority
  /-- A scheme of more than 64 characters. -/
  | schemeTooLong
  /-- More than 65534 bytes. -/
  | tooLong
  deriving DecidableEq, Repr

/-- The wording of an error. -/
def TargetError.message : TargetError → String
  | .empty => "empty string"
  | .invalidCharacter => "invalid uri character"
  | .invalidFormat => "invalid format"
  | .invalidAuthority => "invalid authority"
  | .schemeTooLong => "scheme too long"
  | .tooLong => "uri too long"

/-- A request target, its parts as they were written. -/
structure RequestTarget where
  /-- The scheme of an absolute URL. -/
  scheme : Option String
  /-- User information, host and port; empty for a path. -/
  authority : String
  /-- The path as it was written, possibly empty. -/
  rawPath : String
  /-- What follows the question mark, if there is one. -/
  query : Option String
  deriving DecidableEq, Repr, Inhabited

namespace RequestTarget

/-! ## Reading -/

/-- Greatest length of a target in bytes. -/
def maxBytes : Nat := 65534

/-- Greatest length of a scheme. -/
def maxScheme : Nat := 64

/-- Most colons in a row of characters that no bracket or at sign interrupts. -/
def maxColons : Nat := 8

/-- A character that may stand in an authority, the percent sign apart. -/
def isAuthorityChar (c : Char) : Bool :=
  Ascii.isAlphanumeric c || "!$&\x27()*+,-.:;=@[]_~".toList.contains c

/-- A character that may stand in a scheme. -/
def isSchemeChar (c : Char) : Bool := Ascii.isAlphanumeric c || "+-.~:".toList.contains c

/-- A character that may stand in a path. -/
def isPathChar (c : Char) : Bool :=
  let n := c.toNat
  n == 0x21 || (0x24 ≤ n && n ≤ 0x3B) || n == 0x3D || (0x40 ≤ n && n ≤ 0x5F) ||
    (0x61 ≤ n && n ≤ 0x7E) || 0x80 ≤ n || n == 0x22

/-- A character that may stand in a query. -/
def isQueryChar (c : Char) : Bool :=
  let n := c.toNat
  n == 0x21 || (0x24 ≤ n && n ≤ 0x3B) || n == 0x3D ||
    (0x3F ≤ n && n ≠ 0x7F)

/-- What has been seen of an authority. -/
structure Authority where
  /-- Colons since the last bracket or at sign. -/
  colons : Nat
  /-- An opening bracket was seen. -/
  opened : Bool
  /-- A closing bracket was seen. -/
  closed : Bool
  /-- A percent sign was seen since the last closing bracket or at sign. -/
  percent : Bool
  /-- The last character was an at sign. -/
  afterAt : Bool

/-- Nothing seen yet. -/
def Authority.start : Authority := ⟨0, false, false, false, false⟩

/-- Whether an authority that ends here is complete. -/
def Authority.complete (a : Authority) : Bool :=
  a.opened == a.closed && a.colons ≤ 1 && !a.afterAt && !a.percent

/-- Take in one character of an authority. -/
def Authority.step (a : Authority) (c : Char) : Except TargetError Authority :=
  if c = ':' then
    if a.colons ≥ maxColons then .error .invalidAuthority
    else .ok { a with colons := a.colons + 1, afterAt := false }
  else if c = '[' then
    if a.percent || a.opened then .error .invalidAuthority
    else .ok { a with opened := true, afterAt := false }
  else if c = ']' then
    if !a.opened || a.closed then .error .invalidAuthority
    else .ok { a with closed := true, colons := 0, percent := false, afterAt := false }
  else if c = '@' then .ok { a with colons := 0, percent := false, afterAt := true }
  else if c = '%' then .ok { a with percent := true, afterAt := false }
  else if isAuthorityChar c then .ok { a with afterAt := false }
  else .error .invalidCharacter

/-- A character that ends an authority. -/
def endsAuthority (c : Char) : Bool := c == '/' || c == '?' || c == '#'

/-- Cut an authority off the front; it may be empty. -/
def takeAuthority (cs : List Char) : Except TargetError (List Char × List Char) := do
  let (authority, rest) := cs.span (!endsAuthority ·)
  let seen ← authority.foldlM Authority.step Authority.start
  if seen.complete then return (authority, rest) else throw .invalidAuthority

/-- Read a path and a query; a fragment is dropped. -/
def takePath (cs : List Char) : Except TargetError (String × Option String) :=
  let (path, rest) := cs.span fun c => c != '?' && c != '#'
  if !path.all isPathChar then .error .invalidCharacter
  else match rest with
    | '?' :: rest =>
      let query := rest.takeWhile (· != '#')
      if query.all isQueryChar then .ok (String.ofList path, some (String.ofList query))
      else .error .invalidCharacter
    | _ => .ok (String.ofList path, none)

/-- A known scheme at the front, whatever its case, with what follows it. -/
def dropKnownScheme (cs : List Char) : Option (String × List Char) :=
  ["http", "https"].findSome? fun name =>
    let front := (name ++ "://").toList
    if (cs.take front.length).map Ascii.lower = front then some (name, cs.drop front.length)
    else none

/-- The scheme at the front, if the text has one, with what follows it. -/
def dropScheme (cs : List Char) : Except TargetError (Option (String × List Char)) :=
  match dropKnownScheme cs with
  | some known => .ok (some known)
  | none =>
    let (name, rest) := cs.span fun c => isSchemeChar c && c != ':'
    match rest with
    | ':' :: '/' :: '/' :: rest =>
      if name.isEmpty && rest.isEmpty then .ok none
      else if name.length > maxScheme then .error .schemeTooLong
      else .ok (some (String.ofList name, rest))
    | _ => .ok none

/-- Read a target that is neither a path nor the asterisk. -/
def parseFull (cs : List Char) : Except TargetError RequestTarget := do
  match ← dropScheme cs with
  | some (_, []) => throw .empty
  | some (scheme, rest) =>
    let (authority, rest) ← takeAuthority rest
    if authority.isEmpty then throw .invalidFormat
    let (path, query) ← takePath rest
    return ⟨some scheme, String.ofList authority, path, query⟩
  | none =>
    let (authority, rest) ← takeAuthority cs
    if rest.isEmpty then return ⟨none, String.ofList authority, "", none⟩
    else throw .invalidFormat

/-- Read a request target. -/
def parse (text : String) : Except TargetError RequestTarget :=
  if text.utf8ByteSize > maxBytes then .error .tooLong
  else match text.toList with
    | [] => .error .empty
    | ['*'] => .ok ⟨none, "", "*", none⟩
    | '/' :: rest => (takePath ('/' :: rest)).map fun (path, query) => ⟨none, "", path, query⟩
    | [c] =>
      if endsAuthority c then .error .invalidCharacter else parseFull [c]
    | cs => parseFull cs

/-! ## Parts -/

/-- The path: `/` where a URL has an authority and no path. -/
def path (t : RequestTarget) : String :=
  if t.rawPath = "" ∧ t.scheme.isSome then "/" else t.rawPath

/-- A query with its question mark. -/
def querySuffix : Option String → String
  | some q => "?" ++ q
  | none => ""

/-- Path and query as they were written. -/
def raw (t : RequestTarget) : String :=
  let written := t.rawPath ++ querySuffix t.query
  if written = "" ∧ t.scheme.isSome then "/" else written

/-- The printed form of a target. -/
def print (t : RequestTarget) : String :=
  (match t.scheme with
    | some s => s ++ "://"
    | none => "") ++ t.authority ++ t.path ++ querySuffix t.query

end RequestTarget

end PagePreview
