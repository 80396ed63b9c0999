import PagePreview.Net.Address

/-!
# Addresses to listen on

An address is four decimal bytes or, in brackets, eight groups with an optional numeric scope, then
a colon and a port. Names of hosts are no addresses.
-/

namespace PagePreview

/-- An address with a port. -/
inductive SocketAddress where
  /-- An address of four bytes, which are read as one number. -/
  | bytes (address port : Nat)
  /-- An address of eight groups. -/
  | groups (address : List Nat) (port : Nat)
  deriving DecidableEq, Repr

namespace SocketAddress

/-- The decimal number that characters spell, if it is at most so much. -/
def numberUpTo? (limit : Nat) (cs : List Char) : Option Nat :=
  if !cs.isEmpty && cs.all Ascii.isDigit && decide (Ascii.valueOf 10 cs ≤ limit) then
    some (Ascii.valueOf 10 cs)
  else none

/-- A port. -/
def port? (cs : List Char) : Option Nat := numberUpTo? 65535 cs

/-- Whether characters are a scope, or nothing. -/
def isScope : List Char → Bool
  | [] => true
  | _ :: digits => (numberUpTo? 0xFFFFFFFF digits).isSome

/-- The inside of brackets: an address and perhaps a scope. -/
def groups? (cs : List Char) : Option (List Nat) :=
  let (address, scope) := cs.span (· != '%')
  if isScope scope then Address.ipv6? address else none

/-- Read an address. -/
def parse? (text : String) : Option SocketAddress :=
  match text.toList with
  | '[' :: rest =>
    let (inside, tail) := rest.span (· != ']')
    match tail with
    | ']' :: ':' :: digits => do return .groups (← groups? inside) (← port? digits)
    | _ => none
  | cs => do
    let (address, tail) := cs.span (· != ':')
    return .bytes (← Address.dotted? address) (← port? (tail.drop 1))

/-- Whether a text is an address to listen on. -/
def isValid (text : String) : Bool := (parse? text).isSome

end SocketAddress

end PagePreview
