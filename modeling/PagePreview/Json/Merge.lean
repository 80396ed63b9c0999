import PagePreview.Json.Basic

/-!
# Laying values over page data

Values that a handler supplies are laid over the data of a page member by member. The merge is
shallow: a member is replaced whole. Two values that are not both objects do not merge, and the
supplied one stands alone.
-/

namespace PagePreview.Json

/-- Put every member of `top` into `base`, replacing those that are there. -/
def Members.merge (base top : Members) : Members :=
  top.foldl (fun members p => Members.insert p.1 p.2 members) base

/-- The page data with the supplied values laid over it. -/
def mergeLocals (data locals : Json) : Json :=
  match data, locals with
  | .obj base, .obj top => .obj (Members.merge base top)
  | _, _ => locals

end PagePreview.Json
