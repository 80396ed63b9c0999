import PagePreview.Text.Ascii

/-!
# Target templates

A target may refer to the groups that a pattern captured: `$` and a run of digits stands for the
group with that number. The run is as long as possible, a number without a group stands for
nothing, and a `$` without a digit after it is a plain character. What a group holds is put into
the result as it is and never read again.
-/

namespace PagePreview.Template

/-- One piece of a template. -/
inductive Piece where
  /-- A character that stands for itself. -/
  | plain (c : Char)
  /-- The group with this number. -/
  | group (n : Nat)
  deriving DecidableEq, Repr

/-- The pieces of a template; `number` is the reference being read, if one is. -/
def scan : Option Nat → List Char → List Piece
  | none, [] => []
  | some n, [] => [.group n]
  | none, ['$'] => [.plain '$']
  | none, '$' :: d :: rest =>
    if Ascii.isDigit d then scan (some (d.toNat - 48)) rest
    else .plain '$' :: scan none (d :: rest)
  | none, c :: rest => .plain c :: scan none rest
  | some n, ['$'] => [.group n, .plain '$']
  | some n, '$' :: d :: rest =>
    if Ascii.isDigit d then .group n :: scan (some (d.toNat - 48)) rest
    else .group n :: .plain '$' :: scan none (d :: rest)
  | some n, c :: rest =>
    if Ascii.isDigit c then scan (some (n * 10 + (c.toNat - 48))) rest
    else .group n :: .plain c :: scan none rest

/-- The pieces of a template. -/
def pieces (template : List Char) : List Piece := scan none template

/-- Numbers from here on refer to no group. -/
def wordLimit : Nat := 0x10000000000000000

/-- Fill in a template with the text that each group number stands for. -/
def fill (template : String) (text : Nat → List Char) : String :=
  String.ofList ((pieces template.toList).flatMap fun
    | .plain c => [c]
    | .group n => if n < wordLimit then text n else [])

/-- Captured groups: group 0 is the whole match, and a group that took no part holds nothing. -/
abbrev Groups := List (Option String)

/-- The text of a group; empty when there is no such group or it took no part. -/
def groupText (groups : Groups) (n : Nat) : List Char :=
  match groups[n]? with
  | some (some text) => text.toList
  | _ => []

/-- Fill in a template from captured groups. -/
def expand (template : String) (groups : Groups) : String := fill template (groupText groups)

end PagePreview.Template
