import PagePreview.Pattern.Basic
import PagePreview.Rule.Action
import PagePreview.Rule.Template
import PagePreview.WebUrl.Parser

/-!
# Rules

A rule has an action, a pattern and a target template. It is compiled once, when it is read: the
pattern has to be valid, and the target of a proxy rule has to be an `http` URL, which is tried with
a digit in the place of each placeholder.
-/

namespace PagePreview

/-- Why a rule cannot be compiled. -/
inductive RuleError where
  /-- The pattern is not valid, or too large. -/
  | invalidPattern (pattern : String)
  /-- The target of a proxy rule is no absolute `http` URL. -/
  | invalidProxyTarget (target : String)
  deriving DecidableEq, Repr

/-- A compiled rule. -/
structure Rule where
  /-- What to do with a request. -/
  action : Action
  /-- Which requests it applies to. -/
  pattern : Pattern
  /-- The target, with placeholders. -/
  target : String
  deriving Inhabited

namespace Rule

/-- Whether a template becomes an `http` URL when its placeholders are filled with a digit. -/
def isProxyTemplate (template : String) : Bool :=
  match WebUrl.parse? (Template.fill template fun _ => ['0']) with
  | some url => url.scheme == "http" && url.host.isSome
  | none => false

/-- Compile a rule; the pattern is looked at first. -/
def compile (action : Action) (pattern target : String) : Except RuleError Rule :=
  match Pattern.compile? pattern with
  | none => .error (.invalidPattern pattern)
  | some compiled =>
    if action = .proxy ∧ isProxyTemplate target = false then .error (.invalidProxyTarget target)
    else .ok ⟨action, compiled, target⟩

/-- The groups that the rule captures in a text, if it matches. -/
def captures (r : Rule) (text : String) : Option Template.Groups := r.pattern.captures text

/-- The line that a rule is read from. -/
def line (r : Rule) : String := r.action.keyword ++ " " ++ r.pattern.source ++ " " ++ r.target

end Rule

/-- The wording of an error. -/
def RuleError.message : RuleError → String
  | .invalidPattern pattern => "invalid pattern `" ++ pattern ++ "`"
  | .invalidProxyTarget target => "proxy target `" ++ target ++ "` is not an absolute http URL"

end PagePreview
