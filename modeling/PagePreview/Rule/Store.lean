import PagePreview.Config.Basic
import PagePreview.Rule.Loading

/-!
# The published rules

A store knows the rule files and holds the set that was published last. What a reader has been
given is not changed by later publications.
-/

namespace PagePreview

/-- The rules in force, and where they come from. -/
structure RuleStore where
  /-- The rule files. -/
  files : List String
  /-- When the files are read again. -/
  policy : ReloadPolicy
  /-- The set that was published last. -/
  published : RuleSet

namespace RuleStore

/-- A store that has not read its files yet. -/
def ofFiles (files : List String) (policy : ReloadPolicy) : RuleStore := ⟨files, policy, []⟩

/-- A store of rules that come from no file. -/
def fixed (rules : RuleSet) : RuleStore := ⟨[], .startup, rules⟩

/-- Publish a set. -/
def replace (rules : RuleSet) (s : RuleStore) : RuleStore := { s with published := rules }

/-- Read the files and publish what they hold. -/
def reload (disk : Disk) (s : RuleStore) : RuleStore := s.replace (RuleSet.load disk s.files)

/-- The store as a request finds it; its published set is the one for the request. -/
def forRequest (disk : Disk) (s : RuleStore) : RuleStore :=
  match s.policy with
  | .perRequest => s.reload disk
  | .watch => s
  | .startup => s

end RuleStore

end PagePreview
