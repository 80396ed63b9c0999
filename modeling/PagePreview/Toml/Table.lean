import PagePreview.Toml.Basic

/-!
# Tables under construction

A table can be spread over a document: by headers, by dotted keys, and by the headers of tables
inside it. A table that only the headers of others have named may still get a header of its own, and
one that dotted keys have opened may be extended by dotted keys only. Nothing is defined twice.
-/

namespace PagePreview.Toml

/-- How a table came about. -/
inductive Origin where
  /-- By a header of its own, or it is the document. -/
  | header
  /-- By the header of a table inside it. -/
  | implied
  /-- By dotted keys. -/
  | dotted
  deriving DecidableEq, Repr

/-- What stands at a key. -/
inductive Entry where
  /-- A value, which cannot be extended. -/
  | value (v : Toml)
  /-- A table that may be extended. -/
  | branch (origin : Origin) (members : List (String × Entry))
  /-- The members of the tables of an array, the latest first. -/
  | arrayOf (tables : List (List (String × Entry)))
  deriving Inhabited

/-- The members of a table under construction. -/
abbrev Entries := List (String × Entry)

/-- What stands at a key. -/
def Entries.find? (key : String) (es : Entries) : Option Entry :=
  (List.find? (·.1 == key) es).map (·.2)

/-- Put something at a key, in the place of what is there. -/
def Entries.put (key : String) (e : Entry) : Entries → Entries
  | [] => [(key, e)]
  | (k, old) :: rest => if k = key then (k, e) :: rest else (k, old) :: put key e rest

/-- Change the table that a path leads to. Tables on the way are made where there are none; `dotted`
tells whether the path is one of dotted keys, which do not lead into tables with a header. The last
table of an array stands for the array. The change is told how its table came about. -/
def descend (dotted : Bool) (change : Origin → Entries → Option Entries) :
    List String → Origin → Entries → Option Entries
  | [], origin, es => change origin es
  | key :: path, _, es =>
    match Entries.find? key es with
    | none =>
      let origin := if dotted then Origin.dotted else Origin.implied
      (descend dotted change path origin []).map fun inner =>
        Entries.put key (.branch origin inner) es
    | some (.value _) => none
    | some (.branch origin members) =>
      if dotted && origin == .header then none
      else (descend dotted change path origin members).map fun inner =>
        Entries.put key (.branch origin inner) es
    | some (.arrayOf []) => none
    | some (.arrayOf (last :: before)) =>
      (descend dotted change path .header last).map fun inner =>
        Entries.put key (.arrayOf (inner :: before)) es

/-- Add a value to a table, which must not have the key. A table reached by dotted keys has to have
been opened by them. -/
def addValue (viaDots : Bool) (key : String) (v : Toml) (origin : Origin) (es : Entries) :
    Option Entries :=
  if (origin == .dotted) != viaDots then none
  else match Entries.find? key es with
    | some _ => none
    | none => some (es ++ [(key, .value v)])

/-- Set a value at a path of dotted keys, seen from a table. -/
def setValue (path : List String) (key : String) (v : Toml) (es : Entries) : Option Entries :=
  descend true (addValue (!path.isEmpty) key v) path .header es

/-- Open the table of a header, which may have been implied but not defined. -/
def openTable (key : String) (_ : Origin) (es : Entries) : Option Entries :=
  match Entries.find? key es with
  | none => some (Entries.put key (.branch .header []) es)
  | some (.branch .implied members) => some (Entries.put key (.branch .header members) es)
  | some _ => none

/-- Open the next table of an array. -/
def openNext (key : String) (_ : Origin) (es : Entries) : Option Entries :=
  match Entries.find? key es with
  | none => some (Entries.put key (.arrayOf [[]]) es)
  | some (.arrayOf tables) => some (Entries.put key (.arrayOf ([] :: tables)) es)
  | some _ => none

mutual

/-- The value of what stands at a key. -/
def Entry.close : Entry → Toml
  | .value v => v
  | .branch _ members => .table (closeAll members)
  | .arrayOf tables => .array (closeTables tables [])

/-- The members of a finished table. -/
def closeAll : List (String × Entry) → List (String × Toml)
  | [] => []
  | (k, e) :: rest => (k, e.close) :: closeAll rest

/-- The tables of an array, put in their order. -/
def closeTables : List (List (String × Entry)) → List Toml → List Toml
  | [], acc => acc
  | t :: rest, acc => closeTables rest (.table (closeAll t) :: acc)

end

end PagePreview.Toml
