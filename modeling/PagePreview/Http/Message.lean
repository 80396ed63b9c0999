import PagePreview.Request.Target
import PagePreview.Text.Utf8

/-!
# Requests and responses

Header fields keep the order in which they came; names are in lower case. A request remembers the
target it arrived with once a rule has given it another.
-/

namespace PagePreview

/-- A header field. -/
structure Header where
  /-- The name, in lower case. -/
  name : String
  /-- The value. -/
  value : Bytes
  deriving DecidableEq, Repr

/-- Header fields in order. -/
abbrev Headers := List Header

namespace Headers

/-- The value of the first field with a name. -/
def first? (name : String) (hs : Headers) : Option Bytes :=
  (hs.find? (·.name == name)).map (·.value)

/-- The values of all fields with a name. -/
def values (name : String) (hs : Headers) : List Bytes :=
  (hs.filter (·.name == name)).map (·.value)

/-- All fields but those with a name. -/
def without (name : String) (hs : Headers) : Headers := hs.filter (·.name != name)

/-- Make a value the only one with its name. It takes the place of the first, or the last place. -/
def set (name : String) (value : Bytes) : Headers → Headers
  | [] => [⟨name, value⟩]
  | h :: rest =>
    if h.name = name then ⟨name, value⟩ :: without name rest else h :: set name value rest

end Headers

/-- A byte that may stand in a header value. -/
def isHeaderByte (b : UInt8) : Bool := (0x20 ≤ b && b != 0x7F) || b == 0x09

/-- Whether bytes are a header value. -/
def isHeaderValue (bytes : Bytes) : Bool := bytes.all isHeaderByte

/-- The text of a header value, if all of it is visible ASCII, blanks and tabs. -/
def visibleText? (bytes : Bytes) : Option String :=
  if bytes.all fun b => (0x20 ≤ b && b < 0x7F) || b == 0x09 then
    some (String.ofList (bytes.map fun b => Char.ofNat b.toNat))
  else none

/-- A character that may stand in a method or in a header's name. -/
def isTokenChar (c : Char) : Bool :=
  Ascii.isAlphanumeric c || "!#$%&\x27*+-.^_\x60|~".toList.contains c

/-- Whether a text is a method or a header's name. -/
def isToken (s : String) : Bool := !s.isEmpty && s.toList.all isTokenChar

/-- The name of a header as it is kept. -/
def headerName? (s : String) : Option String := if isToken s then some (Ascii.lowerText s) else none

/-- A request. -/
structure Request where
  /-- The method. -/
  method : String
  /-- The target, as it stands now. -/
  target : RequestTarget
  /-- The header fields. -/
  headers : Headers
  /-- The body. -/
  body : Bytes
  /-- The target at arrival, once another has taken its place. -/
  recorded : Option RequestTarget
  deriving DecidableEq, Repr

namespace Request

/-- The target that a request arrived with. -/
def arrivalTarget (r : Request) : RequestTarget := r.recorded.getD r.target

/-- Record the target as the one that the request arrived with, unless one is recorded. -/
def preserve (r : Request) : Request := { r with recorded := some r.arrivalTarget }

end Request

/-- A response. -/
structure Response where
  /-- The status code. -/
  status : Nat
  /-- The header fields. -/
  headers : Headers
  /-- The body. -/
  body : Bytes
  deriving DecidableEq, Repr

namespace Response

/-- The media type of plain text. -/
def plainType : String := "text/plain; charset=utf-8"

/-- The media type of JSON. -/
def jsonType : String := "application/json"

/-- A response with a media type. -/
def typed (status : Nat) (mediaType : String) (body : Bytes) : Response :=
  ⟨status, [⟨"content-type", Utf8.encode mediaType⟩], body⟩

/-- A response of plain text. -/
def plain (status : Nat) (text : String) : Response := typed status plainType (Utf8.encode text)

/-- A response without fields and body. -/
def bare (status : Nat) : Response := ⟨status, [], []⟩

end Response

end PagePreview
