import PagePreview.Net.Address

/-!
# Absolute URLs

A URL in the parts that the web's standard gives it. Schemes with a default port of their own are
special: they always have a host, and their path always begins with a slash. The origin of a URL is
its scheme, host and port; that of a `blob` URL is the origin of the URL that its path spells, and
other schemes have none.
-/

namespace PagePreview

/-- The host of a URL. -/
inductive Host where
  /-- A domain name, or any text where the scheme is not special. -/
  | domain (name : String)
  /-- An address of four bytes. -/
  | ipv4 (address : Nat)
  /-- An address of eight groups. -/
  | ipv6 (groups : List Nat)
  deriving DecidableEq, Repr

/-- The printed form of a host. -/
def Host.text : Host → String
  | .domain name => name
  | .ipv4 address => String.ofList (Address.ipv4Text address)
  | .ipv6 groups => String.ofList ('[' :: (Address.ipv6Text groups ++ [']']))

/-- The path of a URL. -/
inductive UrlPath where
  /-- Segments, each printed after a slash. -/
  | segments (items : List String)
  /-- A text without structure. -/
  | opaqueText (text : String)
  deriving DecidableEq, Repr

/-- The printed form of a path. -/
def UrlPath.text : UrlPath → String
  | .segments items => String.join (items.map fun s => "/" ++ s)
  | .opaqueText text => text

/-- An absolute URL. User information is not kept. -/
structure WebUrl where
  /-- The scheme, in lower case. -/
  scheme : String
  /-- The host, if there is an authority. -/
  host : Option Host
  /-- The port, if it is not the default one. -/
  port : Option Nat
  /-- The path. -/
  path : UrlPath
  /-- What follows the question mark. -/
  query : Option String
  /-- What follows the number sign. -/
  fragment : Option String
  deriving DecidableEq, Repr

namespace WebUrl

/-- The default port of a special scheme. -/
def defaultPort? (scheme : String) : Option Nat :=
  if scheme = "http" ∨ scheme = "ws" then some 80
  else if scheme = "https" ∨ scheme = "wss" then some 443
  else if scheme = "ftp" then some 21
  else none

/-- A host with its port, if that is not the default one. -/
def authority (host : Host) (port : Option Nat) : String :=
  match port with
  | some p => host.text ++ ":" ++ Ascii.decimal p
  | none => host.text

end WebUrl

end PagePreview
