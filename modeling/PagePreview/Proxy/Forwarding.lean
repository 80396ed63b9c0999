import PagePreview.Http.Message
import PagePreview.Json.Printer
import PagePreview.Proxy.Target

/-!
# Forwarding

A forwarded request keeps its method, body and header fields, except for those that concern one
connection only and for the host, which becomes the server's. In the answer, the location of a
redirect on the server itself is put back onto the client's host. A failure is answered with
status 500 and a reason.
-/

namespace PagePreview

/-- The fields that concern one connection. -/
def hopByHop : List String :=
  ["connection", "keep-alive", "proxy-connection", "te", "trailer", "transfer-encoding", "upgrade"]

namespace Headers

/-- Drop white space at both ends. -/
def trim (cs : List Char) : List Char :=
  ((cs.dropWhile Text.isBlank).reverse.dropWhile Text.isBlank).reverse

/-- The names that the field `connection` lists. A value that is not visible ASCII lists none. -/
def listedNames (hs : Headers) : List String :=
  ((Headers.values "connection" hs).filterMap visibleText?).flatMap fun value =>
    (Text.splitWhere (· == ',') value.toList).filterMap fun item =>
      headerName? (String.ofList (trim item))

/-- The fields that outlast a connection. -/
def stripHopByHop (hs : Headers) : Headers :=
  let listed := listedNames hs
  hs.filter fun h => !listed.contains h.name && !hopByHop.contains h.name

end Headers

/-- The version of the protocol in which servers are asked: connections persist in it. -/
def persistentVersion : String := "HTTP/1.1"

/-- A request as it is sent to a server. -/
structure Outgoing where
  /-- The method. -/
  method : String
  /-- The absolute target. -/
  uri : RequestTarget
  /-- The version of the protocol. -/
  version : String
  /-- The header fields. -/
  headers : Headers
  /-- The body. -/
  body : Bytes
  deriving DecidableEq, Repr

/-- Turn a request to another server; whatever version it came in, it is sent in the one of
persistent connections. -/
def Request.prepare (r : Request) (target : ProxyTarget) : Except ProxyError Outgoing :=
  match target.uri with
  | .error e => .error e
  | .ok uri =>
    let host := Utf8.encode target.authority
    if isHeaderValue host then
      .ok ⟨r.method, uri, persistentVersion,
        Headers.set "host" host (Headers.stripHopByHop r.headers), r.body⟩
    else .error (.invalidTarget target.origin)

/-- The answer to a request that could not be forwarded. -/
def Response.ofProxyError (e : ProxyError) : Response :=
  .typed 500 Response.jsonType (Utf8.encode (Json.render
    (.ofPairs [("error", .str "proxy_error"), ("reason", .str e.reason)])))

/-- The statuses with which a location names where to go on. -/
def locationStatuses : List Nat := [201, 301, 302, 307, 308]

namespace Response

/-- The location that takes the place of a server's own. -/
def clientLocation? (status : Nat) (hs : Headers) (target : ProxyTarget)
    (inboundHost : Option String) : Option Bytes :=
  if locationStatuses.contains status then do
    let value ← Headers.first? "location" hs
    let location ← visibleText? value
    let seen := Utf8.encode (← target.clientLocation? location inboundHost)
    if isHeaderValue seen then some seen else none
  else none

/-- The client's answer from that of a server. -/
def relayed (r : Response) (target : ProxyTarget) (inboundHost : Option String) : Response :=
  let hs := Headers.stripHopByHop r.headers
  let hs := match clientLocation? r.status hs target inboundHost with
    | some value => Headers.set "location" value hs
    | none => hs
  { r with headers := hs }

end Response

/-- The host that a client asked, if its name is visible ASCII. -/
def Request.inboundHost (r : Request) : Option String :=
  (Headers.first? "host" r.headers).bind visibleText?

/-- How other servers answer: a response, or why there is none. -/
abbrev Network := Outgoing → Except ProxyError Response

/-- What came of forwarding a request. -/
structure Forwarded where
  /-- The client's answer. -/
  response : Response
  /-- The request that was sent, if one was. -/
  sent : Option Outgoing
  /-- Whether the server answered. -/
  succeeded : Bool

/-- Forward a request and answer the client. -/
def Request.forward (network : Network) (r : Request) (target : ProxyTarget) : Forwarded :=
  match r.prepare target with
  | .error e => ⟨.ofProxyError e, none, false⟩
  | .ok out =>
    match network out with
    | .ok answer => ⟨.relayed answer target r.inboundHost, some out, true⟩
    | .error e => ⟨.ofProxyError e, some out, false⟩

end PagePreview
