import PagePreview.Decimal.Binary64

/-!
# JSON values

Integers between `-2 ^ 63` and `2 ^ 64 - 1` are kept exactly, all other numbers as doubles. The
members of an object stand in the order of their keys, each key once.
-/

namespace PagePreview

/-- A JSON value. -/
inductive Json where
  /-- The value `null`. -/
  | null
  /-- A truth value. -/
  | bool (b : Bool)
  /-- An integer. -/
  | int (n : Int)
  /-- A number that is no integer of 64 bits. -/
  | real (x : Binary64)
  /-- A string. -/
  | str (s : String)
  /-- An array. -/
  | arr (items : List Json)
  /-- An object; its members are sorted by key. -/
  | obj (members : List (String × Json))
  deriving Repr, Inhabited

namespace Json

/-- The members of an object under construction or inspection. -/
abbrev Members := List (String × Json)

namespace Members

/-- Put a member at its place in the order of keys; a member with the same key is replaced. -/
def insert (key : String) (value : Json) : Members → Members
  | [] => [(key, value)]
  | (k, v) :: rest =>
    if key = k then (key, value) :: rest
    else if key < k then (key, value) :: (k, v) :: rest
    else (k, v) :: insert key value rest

/-- The value at a key. -/
def get? (key : String) : Members → Option Json
  | [] => none
  | (k, v) :: rest => if key = k then some v else get? key rest

/-- Members given in any order; of several with one key the last counts. -/
def ofList (pairs : List (String × Json)) : Members :=
  pairs.foldl (fun members p => Members.insert p.1 p.2 members) []

end Members

/-- The object with these members. -/
def ofPairs (pairs : List (String × Json)) : Json := .obj (Members.ofList pairs)

/-- The object without members. -/
def empty : Json := .obj []

/-- The value of a member; nothing for a value that is no object. -/
def get? (key : String) : Json → Option Json
  | .obj members => Members.get? key members
  | _ => none

end Json

end PagePreview
