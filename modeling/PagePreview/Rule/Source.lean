import PagePreview.Rule.Set
import PagePreview.Text.Blank

/-!
# Reading rules

A rule stands on a line of its own: a keyword, a pattern and a target, separated by white space.
Every other line is passed over, and so is a rule that cannot be compiled.
-/

namespace PagePreview

/-- The rule on a line, if there is one. -/
def Rule.ofLine? (line : String) : Option Rule :=
  match Text.words line with
  | [keyword, pattern, target] =>
    match Action.ofKeyword? keyword with
    | some action => (Rule.compile action pattern target).toOption
    | none => none
  | _ => none

namespace RuleSet

/-- The rules of one source. -/
def ofSource (source : String) : RuleSet := (Text.lines source).filterMap Rule.ofLine?

/-- The rules of several sources, in order. -/
def ofSources (sources : List String) : RuleSet := sources.flatMap ofSource

end RuleSet

end PagePreview
