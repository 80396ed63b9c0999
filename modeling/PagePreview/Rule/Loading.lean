import PagePreview.Disk.Basic
import PagePreview.Rule.Source

/-!
# Rules from files

The rule files are read in order. A file that is missing, or is no text, contributes nothing.
-/

namespace PagePreview.RuleSet

/-- The rules in some files. -/
def load (disk : Disk) (files : List String) : RuleSet :=
  ofSources (files.filterMap fun file => (disk.readText file).toOption)

end PagePreview.RuleSet
