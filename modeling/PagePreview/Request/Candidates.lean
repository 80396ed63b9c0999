import PagePreview.Request.Target
import PagePreview.Text.Percent

/-!
# The texts that rules are tested against

A rule is tested against the target as it was written, path and query, and then against the decoded
path without the query. Two equal texts count once.
-/

namespace PagePreview

namespace RequestTarget

/-- The percent-decoded path, which also names pages and fixtures. -/
def decodedPath (t : RequestTarget) : String := Percent.decodeText t.path

/-- The texts that rules are tested against, in order. -/
def candidates (t : RequestTarget) : List String :=
  if t.raw = t.decodedPath then [t.raw] else [t.raw, t.decodedPath]

end RequestTarget

end PagePreview
