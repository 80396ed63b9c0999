import PagePreview.Request.Target
import PagePreview.WebUrl.Parser

/-!
# Where a request is forwarded to

A target is an absolute `http` URL. It names the server to connect to and the path and query to ask
it for. The target's own query wins over that of the request; an empty query is none.
-/

namespace PagePreview

/-- Why a request could not be forwarded. -/
inductive ProxyError where
  /-- The text is no URL, or no request can be made of it. -/
  | invalidTarget (text : String)
  /-- The URL has another scheme. -/
  | unsupportedScheme (scheme : String)
  /-- The server could not be reached, or did not answer as it should. -/
  | unanswered (cause : String)
  /-- The server did not answer in so many seconds. -/
  | timeout (seconds : Nat)
  deriving DecidableEq, Repr

/-- A duration in seconds as it is printed; the empty one is printed in the least unit. -/
def durationText (seconds : Nat) : String :=
  if seconds = 0 then "0ns" else Ascii.decimal seconds ++ "s"

/-- The error, with what caused it, as clients are told. -/
def ProxyError.reason : ProxyError → String
  | .invalidTarget text => "invalid proxy target `" ++ text ++ "`"
  | .unsupportedScheme scheme => "unsupported upstream scheme `" ++ scheme ++ "`"
  | .unanswered cause => "upstream request failed: " ++ cause
  | .timeout seconds => "upstream did not respond within " ++ durationText seconds

/-- Where a request is forwarded to. -/
structure ProxyTarget where
  /-- Scheme, host and port. -/
  origin : String
  /-- Host and port, which the server is addressed by. -/
  authority : String
  /-- The path to ask for. -/
  path : String
  /-- The query to ask with. -/
  query : Option String
  deriving DecidableEq, Repr

namespace ProxyTarget

/-- Read a target; `inbound` is the query of the request to forward. -/
def parse (text : String) (inbound : Option String) : Except ProxyError ProxyTarget :=
  match WebUrl.parse? text with
  | none => .error (.invalidTarget text)
  | some url =>
    if url.scheme ≠ "http" then .error (.unsupportedScheme url.scheme)
    else match url.host with
      | none => .error (.invalidTarget text)
      | some host =>
        .ok ⟨url.origin, WebUrl.authority host url.port, url.path.text,
          (url.query.or inbound).filter (· ≠ "")⟩

/-- Path and query as they are asked for. -/
def pathAndQuery (t : ProxyTarget) : String := t.path ++ RequestTarget.querySuffix t.query

/-- The absolute form of the request that is sent. -/
def uri (t : ProxyTarget) : Except ProxyError RequestTarget :=
  let full := t.origin ++ t.pathAndQuery
  match RequestTarget.parse full with
  | .ok u => .ok u
  | .error _ => .error (.invalidTarget full)

/-- A location that the server names, as the client has to see it: one on the server's own origin
is put onto the host that the client asked, or reduced to a path if the client named none. -/
def clientLocation? (t : ProxyTarget) (location : String) (inboundHost : Option String) :
    Option String :=
  match WebUrl.parse? location with
  | none => none
  | some url =>
    if url.origin ≠ t.origin then none
    else
      some ((match inboundHost with
        | some host => "http://" ++ host
        | none => "") ++ url.path.text ++ RequestTarget.querySuffix url.query ++
          (match url.fragment with
            | some f => "#" ++ f
            | none => ""))

end ProxyTarget

end PagePreview
