import PagePreview.Request.Candidates
import PagePreview.Rule.Basic

/-!
# Sets of rules

Rules stand in the order in which they are declared. For a list of texts, the first rule that
matches any of them wins, with the groups captured in the first text that it matches.
-/

namespace PagePreview

/-- Rules in order of declaration. -/
abbrev RuleSet := List Rule

/-- A rule that matched, with what it captured. -/
structure Match where
  /-- The rule. -/
  rule : Rule
  /-- The groups; group 0 is the whole match. -/
  groups : Template.Groups

/-- The rule's target with its placeholders filled in. -/
def Match.target (m : Match) : String := Template.expand m.rule.target m.groups

namespace RuleSet

/-- The match of one rule with the first text that it matches. -/
def matchOf (candidates : List String) (r : Rule) : Option Match :=
  (candidates.findSome? r.captures).map fun groups => ⟨r, groups⟩

/-- The first rule that matches any of the texts. -/
def resolve (rules : RuleSet) (candidates : List String) : Option Match :=
  rules.findSome? (matchOf candidates)

/-- The first rule that matches a request target. -/
def resolveTarget (rules : RuleSet) (target : RequestTarget) : Option Match :=
  resolve rules target.candidates

end RuleSet

end PagePreview
