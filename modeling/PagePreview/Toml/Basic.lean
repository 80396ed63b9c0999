/-!
# Configuration documents

The values of a TOML document. Floating-point numbers and dates are kept as they are written,
because no setting is one.
-/

namespace PagePreview

/-- A value of a document. -/
inductive Toml where
  /-- A string. -/
  | string (s : String)
  /-- An integer of 64 bits. -/
  | integer (n : Int)
  /-- A floating-point number, as written. -/
  | float (text : String)
  /-- A truth value. -/
  | boolean (b : Bool)
  /-- A date, a time or both, as written. -/
  | date (text : String)
  /-- An array. -/
  | array (items : List Toml)
  /-- A table. -/
  | table (members : List (String × Toml))
  deriving Repr, Inhabited

end PagePreview
