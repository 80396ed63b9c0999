import PagePreview.Text.Percent
import PagePreview.WebUrl.Basic
import PagePreview.WebUrl.Domain

/-!
# Reading URLs

Control characters and blanks around a URL and line ends inside it are ignored. After a special
scheme any number of slashes may stand, backslashes are slashes, and the host is a domain name or
an address. Dots in a path are resolved, and what may not stand in a part is percent-encoded.
-/

namespace PagePreview.WebUrl

/-! ## Percent-encoding of parts -/

/-- Control characters and the delete character. -/
def isControl (c : Char) : Bool := c.toNat < 0x20 || c.toNat == 0x7F

/-- Characters that are encoded in a fragment. -/
def escapedInFragment (c : Char) : Bool :=
  isControl c || c == ' ' || c == '\x22' || c == '<' || c == '>' || c == '\x60'

/-- Characters that are encoded in a path. -/
def escapedInPath (c : Char) : Bool :=
  escapedInFragment c || c == '#' || c == '?' || c == '\x7b' || c == '\x7d'

/-- Characters that are encoded in a query. -/
def escapedInQuery (special : Bool) (c : Char) : Bool :=
  isControl c || c == ' ' || c == '\x22' || c == '#' || c == '<' || c == '>' ||
    (special && c == '\x27')

/-- Encode a part of a URL. -/
def encodePart (escaped : Char → Bool) (cs : List Char) : String :=
  String.ofList (Percent.encode escaped cs)

/-! ## Hosts -/

/-- A character that the host of a URL without a special scheme may not hold. -/
def forbiddenInOpaqueHost (c : Char) : Bool :=
  c == '\x00' || c == '\t' || c == '\n' || c == '\r' || " #/:<>?@[\\]^|".toList.contains c

/-- An address in brackets. -/
def bracketHost? (cs : List Char) : Option Host :=
  if cs.getLast? = some ']' then (Address.ipv6? ((cs.drop 1).dropLast)).map .ipv6 else none

/-- The host of a special scheme. -/
def specialHost? (cs : List Char) : Option Host :=
  match cs with
  | '[' :: _ => bracketHost? cs
  | _ => do
    let bytes := Percent.decodeBytes (Utf8.encode (String.ofList cs))
    let name ← Utf8.decode? bytes
    let ascii ← Domain.toAscii? name.toList
    if ascii.isEmpty then none
    else if Address.endsInNumber ascii then (Address.ipv4? ascii).map .ipv4
    else some (.domain (String.ofList ascii))

/-- The host of any other scheme. -/
def opaqueHost? (cs : List Char) : Option Host :=
  match cs with
  | '[' :: _ => bracketHost? cs
  | _ =>
    if cs.any forbiddenInOpaqueHost then none else some (.domain (encodePart isControl cs))

/-! ## Paths -/

/-- A segment that stands for the place it is in, dots being written plainly or encoded. -/
def isSingleDot (segment : List Char) : Bool :=
  let s := String.ofList (segment.map Ascii.lower)
  s == "." || s == "%2e"

/-- A segment that stands for the place above. -/
def isDoubleDot (segment : List Char) : Bool :=
  [".", "%2e"].any fun a => [".", "%2e"].any fun b =>
    String.ofList (segment.map Ascii.lower) == a ++ b

/-- A segment that looks like the letter of a drive, above which no path leads. -/
def isDriveLetter (segment : String) : Bool :=
  match segment.toList with
  | [a, b] => Ascii.isLetter a && (b == ':' || b == '|')
  | _ => false

/-- Go up one place; the segments stand in reverse. -/
def goUp : List String → List String
  | [] => []
  | s :: rest => if isDriveLetter s then s :: rest else rest

/-- Resolve the dots of a path and encode its segments; those resolved stand in reverse. A path that
ends in a dot segment ends in a slash. -/
def resolve : List String → List (List Char) → List String
  | done, [] => done.reverse
  | done, [last] =>
    if isDoubleDot last then ("" :: goUp done).reverse
    else if isSingleDot last then ("" :: done).reverse
    else (encodePart escapedInPath last :: done).reverse
  | done, s :: rest =>
    if isDoubleDot s then resolve (goUp done) rest
    else if isSingleDot s then resolve done rest
    else resolve (encodePart escapedInPath s :: done) rest

/-- A character between segments. -/
def isSlash (special : Bool) (c : Char) : Bool := c == '/' || (special && c == '\\')

/-- The segments of a path without its first slash. -/
def pathOf (special : Bool) (cs : List Char) : UrlPath :=
  .segments (resolve [] (Text.splitWhere (isSlash special) cs))

/-! ## The parts after the scheme -/

/-- Cut off a query and a fragment. -/
def cutTail (cs : List Char) : List Char × Option (List Char) × Option (List Char) :=
  let (front, rest) := cs.span (· != '#')
  let fragment := match rest with
    | _ :: f => some f
    | [] => none
  let (path, rest) := front.span (· != '?')
  let query := match rest with
    | _ :: q => some q
    | [] => none
  (path, query, fragment)

/-- Put a URL together, with its query and fragment encoded. -/
def assemble (special : Bool) (scheme : String) (host : Option Host) (port : Option Nat)
    (path : UrlPath) (query fragment : Option (List Char)) : WebUrl :=
  ⟨scheme, host, port, path, query.map (encodePart (escapedInQuery special)),
    fragment.map (encodePart escapedInFragment)⟩

/-- The port after a host's colon, which is none if it is missing or the default one, and what
follows it: a backslash, which can only stand here after a scheme that is not special, ends it. -/
def port? (scheme : String) (cs : List Char) : Option (Option Nat × List Char) :=
  let (digits, rest) := cs.span Ascii.isDigit
  let n := Ascii.valueOf 10 digits
  if rest.head?.any (· != '\\') ∨ n > 65535 then none
  else if digits.isEmpty ∨ defaultPort? scheme = some n then some (none, rest)
  else some (some n, rest)

/-- Cut a host off the front of an authority, at the first colon outside brackets. -/
def cutHost : Bool → List Char → List Char × List Char
  | _, [] => ([], [])
  | inside, c :: rest =>
    if c = ':' ∧ inside = false then ([], c :: rest)
    else
      let (host, tail) := cutHost (if c = '[' then true else if c = ']' then false else inside) rest
      (c :: host, tail)

/-- What follows the last at sign, and what precedes it if there is one. -/
def dropUserInfo (cs : List Char) : Option (List Char) × List Char :=
  if cs.contains '@' then
    let host := (cs.reverse.takeWhile (· != '@')).reverse
    (some (cs.take (cs.length - host.length - 1)), host)
  else (none, cs)

/-- Whether user information holds a name or a password. -/
def namesUser (user : List Char) : Bool := !user.isEmpty && user != [':']

/-- A host and a port, and what follows the port. The host may be empty only where the scheme is not
special and neither a user nor a port is given; after an at sign that nothing precedes, nothing may
follow the authority then. -/
def hostAndPort? (special : Bool) (scheme : String) (cs : List Char) (followed : Bool) :
    Option (Host × Option Nat × List Char) :=
  let (user, rest) := dropUserInfo cs
  let (host, tail) := cutHost false rest
  if host.isEmpty ∧ (special ∨ !tail.isEmpty ∨ user.any namesUser ∨ (user = some [] ∧ followed))
  then none
  else do
    let host ← if special then specialHost? host else opaqueHost? host
    match tail with
    | _ :: digits => return (host, ← port? scheme digits)
    | [] => return (host, none, [])

/-- A URL from its authority on. What follows a port begins the path. -/
def authorityAndPath? (special : Bool) (scheme : String) (cs : List Char) : Option WebUrl := do
  let (front, query, fragment) := cutTail cs
  let (authority, path) := front.span fun c => !isSlash special c
  let (host, port, rest) ← hostAndPort? special scheme authority
    (!path.isEmpty || query.isSome || fragment.isSome)
  let path :=
    if !rest.isEmpty then pathOf special (rest ++ path)
    else if path.isEmpty ∧ !special then .segments []
    else pathOf special (path.drop 1)
  return assemble special scheme (some host) port path query fragment

/-- A URL of the scheme `file` after the colon. A host that is a drive letter begins the path. -/
def filePath? (scheme : String) (cs : List Char) : Option WebUrl := do
  let (front, query, fragment) := cutTail cs
  match front with
  | a :: b :: rest =>
    if isSlash true a && isSlash true b then
      let (host, path) := rest.span fun c => !isSlash true c
      if host.isEmpty ∨ isDriveLetter (String.ofList host) then
        return assemble true scheme none none (pathOf true (rest.dropWhile (isSlash true)))
          query fragment
      else
        let host ← specialHost? host
        return assemble true scheme (some host) none (pathOf true (path.drop 1)) query fragment
    else return assemble true scheme none none (pathOf true front) query fragment
  | front => return assemble true scheme none none (pathOf true front) query fragment

/-- A URL after its scheme and the colon. -/
def afterScheme? (scheme : String) (cs : List Char) : Option WebUrl :=
  if scheme = "file" then filePath? scheme cs
  else if (defaultPort? scheme).isSome then
    authorityAndPath? true scheme (cs.dropWhile (isSlash true))
  else
    match cs with
    | '/' :: '/' :: rest => authorityAndPath? false scheme rest
    | '/' :: rest =>
      let (path, query, fragment) := cutTail rest
      some (assemble false scheme none none (pathOf false path) query fragment)
    | _ =>
      let (path, query, fragment) := cutTail cs
      let text := encodePart isControl path
      some (assemble false scheme none none (.opaqueText text) query fragment)

/-- Ignored around a URL. -/
def isOuterBlank (c : Char) : Bool := c.toNat ≤ 0x20

/-- The characters of a URL without those that are ignored. -/
def clean (cs : List Char) : List Char :=
  let inner := ((cs.dropWhile isOuterBlank).reverse.dropWhile isOuterBlank).reverse
  inner.filter fun c => c != '\t' && c != '\n' && c != '\r'

/-- A character of a scheme after its first letter. -/
def isSchemeChar (c : Char) : Bool := Ascii.isAlphanumeric c || c == '+' || c == '-' || c == '.'

/-- Read an absolute URL. -/
def parse? (text : String) : Option WebUrl :=
  let cs := clean text.toList
  let (scheme, rest) := cs.span isSchemeChar
  match rest with
  | ':' :: rest =>
    if scheme.head?.any Ascii.isLetter then
      afterScheme? (String.ofList (scheme.map Ascii.lower)) rest
    else none
  | _ => none

/-! ## Origins -/

/-- The printed origin of a URL, `null` if it has none; a `blob` URL may hold another one. -/
def originText : Nat → WebUrl → String
  | 0, _ => "null"
  | fuel + 1, u =>
    if u.scheme = "blob" then
      match parse? u.path.text with
      | some inner => originText fuel inner
      | none => "null"
    else
      match u.host with
      | some host =>
        if (defaultPort? u.scheme).isSome then u.scheme ++ "://" ++ authority host u.port
        else "null"
      | none => "null"

/-- The printed origin of a URL. Every `blob` URL is longer than the one it holds. -/
def origin (u : WebUrl) : String := originText (u.path.text.length + 1) u

end PagePreview.WebUrl
