import PagePreview.Text.Ascii

/-!
# What a rule does

Three keywords, in any mixture of cases, name the three things a rule can do with a request.
-/

namespace PagePreview

/-- What to do with a request that a rule matches. -/
inductive Action where
  /-- Continue with another URL, unseen by the client. -/
  | rewrite
  /-- Answer with a redirect to another URL. -/
  | redirect
  /-- Forward to another server. -/
  | proxy
  deriving DecidableEq, Repr, Inhabited

namespace Action

/-- The keyword of an action, as it is printed and counted. -/
def keyword : Action → String
  | .rewrite => "rewrite"
  | .redirect => "redirect"
  | .proxy => "proxy"

/-- Every action, once. -/
def all : List Action := [.rewrite, .redirect, .proxy]

/-- The action that a keyword names, whatever its case. -/
def ofKeyword? (word : String) : Option Action :=
  all.find? fun a => Ascii.sameIgnoringCase word a.keyword

end Action

end PagePreview
