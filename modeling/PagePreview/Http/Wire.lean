import PagePreview.Net.SocketAddress
import PagePreview.Proxy.Forwarding

/-!
# Messages on a connection

A message is a first line, header fields and an empty line, and then a body. The field
`content-length` tells how long the body is, or the body comes in chunks, each with its length
before it; the body of an answer may also end with the connection. A connection carries one request
and its answer.
-/

namespace PagePreview

/-- What the bytes that have arrived so far amount to. -/
inductive Arrival (α : Type) where
  /-- More has to come. -/
  | incomplete
  /-- All is there. -/
  | complete (value : α)
  /-- This cannot become a message. -/
  | faulty

namespace Arrival

/-- Change what has arrived. -/
def map {α β : Type} (f : α → β) : Arrival α → Arrival β
  | .incomplete => .incomplete
  | .complete value => .complete (f value)
  | .faulty => .faulty

end Arrival

namespace Wire

/-- The end of a line. -/
def lineEnd : Bytes := [0x0D, 0x0A]

/-- What stands before the first empty line, and what comes after it. -/
def splitHead? : Bytes → Option (Bytes × Bytes)
  | [] => none
  | 0x0D :: 0x0A :: 0x0D :: 0x0A :: rest => some ([], rest)
  | b :: rest => (splitHead? rest).map fun (head, body) => (b :: head, body)

/-- The lines of a head. -/
def headLines (head : Bytes) : List Bytes :=
  (Text.splitWhere (· == 0x0A) head).map fun line =>
    if line.getLast? = some 0x0D then line.dropLast else line

/-- Whether a byte is a blank or a tab. -/
def isSpace (b : UInt8) : Bool := b == 0x20 || b == 0x09

/-- Bytes without the blanks and tabs at both ends. -/
def trim (bs : Bytes) : Bytes := ((bs.dropWhile isSpace).reverse.dropWhile isSpace).reverse

/-- The header field in a line. -/
def header? (line : Bytes) : Option Header := do
  let (name, value) := line.span (· != 0x3A)
  let name ← headerName? (← Utf8.decode? name)
  match value with
  | [] => none
  | _ :: value => if isHeaderValue (trim value) then some ⟨name, trim value⟩ else none

/-- The first line of a message, in words, and its header fields. -/
structure Head where
  /-- The words of the first line. -/
  words : List String
  /-- The header fields. -/
  headers : Headers
  deriving DecidableEq, Repr

/-- Read the head of a message. -/
def Head.parse? (head : Bytes) : Option Head :=
  match headLines head with
  | [] => none
  | first :: rest => do return ⟨Text.words (← Utf8.decode? first), ← rest.mapM header?⟩

/-- How the end of a body is known. -/
inductive Framing where
  /-- The body has so many bytes. -/
  | length (n : Nat)
  /-- The body comes in chunks. -/
  | chunked
  /-- Nothing tells. -/
  | untold
  deriving DecidableEq, Repr

/-- The decimal number in a header value. -/
def number? (value : Bytes) : Option Nat := do
  let digits := (← visibleText? value).toList
  if digits.isEmpty ∨ !digits.all Ascii.isDigit then none else some (Ascii.valueOf 10 digits)

/-- How the end of the body after some header fields is known; chunks come before a length. -/
def framing? (hs : Headers) : Option Framing :=
  match Headers.first? "transfer-encoding" hs, Headers.first? "content-length" hs with
  | some value, _ =>
    if (visibleText? value).any (Ascii.sameIgnoringCase · "chunked") then some .chunked else none
  | none, some value => (number? value).map .length
  | none, none => some .untold

/-- The length of a chunk: hexadecimal digits, perhaps with an extension after them. -/
def chunkLength? (line : Bytes) : Option Nat := do
  let digits := ((← visibleText? line).toList.takeWhile (· != ';')).takeWhile (· != ' ')
  if digits.isEmpty ∨ digits.any fun c => (Ascii.hexValue? c).isNone then none
  else some (Ascii.valueOf 16 digits)

/-- The first line of some bytes, and what comes after it. -/
def line? (bs : Bytes) : Option (Bytes × Bytes) :=
  let (line, rest) := bs.span (· != 0x0A)
  match rest with
  | [] => none
  | _ :: rest => some (if line.getLast? = some 0x0D then line.dropLast else line, rest)

/-- Put chunks together, up to the empty one. There are not more of them than the number says. -/
def joinChunks : Nat → Bytes → Arrival Bytes
  | 0, _ => .incomplete
  | n + 1, bs =>
    match line? bs with
    | none => .incomplete
    | some (line, rest) =>
      match chunkLength? line with
      | none => .faulty
      | some 0 => .complete []
      | some length =>
        if rest.length < length + lineEnd.length then .incomplete
        else (joinChunks n (rest.drop (length + lineEnd.length))).map (rest.take length ++ ·)

/-- The body in the bytes after a head; a body of which nothing tells the end is `untold`. -/
def body (framing : Framing) (untold : Arrival Bytes) (bs : Bytes) : Arrival Bytes :=
  match framing with
  | .length n => if bs.length < n then .incomplete else .complete (bs.take n)
  | .chunked => joinChunks bs.length bs
  | .untold => untold

/-- The greatest length of a head. -/
def maxHead : Nat := 65536

/-- Read a message. What nothing tells the end of is `untold` of what is there. -/
def message {α : Type} (untold : Bytes → Arrival Bytes) (make : Head → Bytes → Option α)
    (bs : Bytes) : Arrival α :=
  match splitHead? bs with
  | none => if bs.length > maxHead then .faulty else .incomplete
  | some (head, rest) =>
    match Head.parse? head with
    | none => .faulty
    | some head =>
      match framing? head.headers with
      | none => .faulty
      | some framing =>
        match body framing (untold rest) rest with
        | .incomplete => .incomplete
        | .faulty => .faulty
        | .complete content =>
          match make head content with
          | some value => .complete value
          | none => .faulty

/-- The request with a head and a body. -/
def requestOf? (head : Head) (content : Bytes) : Option Request :=
  match head.words with
  | [method, target, version] => do
    let target ← (RequestTarget.parse target).toOption
    if isToken method ∧ version.startsWith "HTTP/1." then
      some ⟨method, target, head.headers, content, none⟩
    else none
  | _ => none

/-- Read a request; where nothing tells the end of its body, it has none. -/
def request (bs : Bytes) : Arrival Request := message (fun _ => .complete []) requestOf? bs

/-- The response with a head and a body. -/
def responseOf? (head : Head) (content : Bytes) : Option Response :=
  match head.words with
  | version :: status :: _ => do
    let status ← number? (Utf8.encode status)
    if version.startsWith "HTTP/1." then some ⟨status, head.headers, content⟩ else none
  | _ => none

/-- Read the answer to a request with a method. Its body may end with the connection. -/
def response (method : String) (ended : Bool) (bs : Bytes) : Arrival Response :=
  if method = "HEAD" then
    match splitHead? bs with
    | some (head, _) =>
      match (Head.parse? head).bind fun head => responseOf? head [] with
      | some r => .complete r
      | none => .faulty
    | none => .incomplete
  else message (fun rest => if ended then .complete rest else .incomplete) responseOf? bs

/-! ## Writing -/

/-- The name of a machine without the brackets that stand around eight groups. -/
def unbracketed (host : List Char) : List Char :=
  if host.head? = some '[' then (host.drop 1).dropLast else host

/-- The machine and the port that an authority names; without a port it is that of the web. -/
def endpoint (authority : String) : String × Nat :=
  let reversed := authority.toList.reverse
  match SocketAddress.port? (reversed.takeWhile (· != ':')).reverse with
  | some port =>
    (String.ofList (unbracketed ((reversed.dropWhile (· != ':')).drop 1).reverse), port)
  | none => (String.ofList (unbracketed authority.toList), 80)

/-- A header field as a line. -/
def headerLine (h : Header) : Bytes :=
  Utf8.encode h.name ++ Utf8.encode ": " ++ h.value ++ lineEnd

/-- A message: its first line, its fields, and a body. -/
def write (first : String) (hs : Headers) (content : Bytes) : Bytes :=
  Utf8.encode first ++ lineEnd ++ hs.flatMap headerLine ++ lineEnd ++ content

/-- The field that ends a connection with its first answer. -/
def closing : Header := ⟨"connection", Utf8.encode "close"⟩

/-- The fields with the length of a body, if they do not tell it. -/
def withLength (content : Bytes) (hs : Headers) : Headers :=
  if (Headers.first? "content-length" hs).isSome then hs
  else hs ++ [⟨"content-length", Utf8.encode (Ascii.decimal content.length)⟩]

/-- The answer to a request with a method. One to `HEAD` is sent without its body. -/
def writeResponse (method : String) (r : Response) : Bytes :=
  write ("HTTP/1.1 " ++ Ascii.decimal r.status ++ " ") (withLength r.body r.headers ++ [closing])
    (if method = "HEAD" then [] else r.body)

/-- The path and query of a target, as a server is asked for them. -/
def originForm (t : RequestTarget) : String := t.path ++ RequestTarget.querySuffix t.query

/-- A request to another server. -/
def writeOutgoing (r : Outgoing) : Bytes :=
  let hs := if r.body.isEmpty then r.headers else withLength r.body r.headers
  write (r.method ++ " " ++ originForm r.uri ++ " " ++ r.version) (hs ++ [closing]) r.body

end Wire

end PagePreview
