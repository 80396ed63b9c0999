import PagePreview.Rule.Loading

/-!
# Rule files that are being read

Rule files are read one after another, and files may change between two of them. What has been read
is kept as it was, so the rules in the end may come from files as they stood at different times.
-/

namespace PagePreview

/-- Rule files that are being read. -/
structure RuleReading where
  /-- The files that are still to be read, in order. -/
  left : List String
  /-- The texts that were read so far, in order. -/
  texts : List String
  deriving DecidableEq, Repr

namespace RuleReading

/-- Nothing has been read yet. -/
def ofFiles (files : List String) : RuleReading := ⟨files, []⟩

/-- Read the next file. One that is missing, or is no text, contributes nothing. -/
def next (disk : Disk) (r : RuleReading) : RuleReading :=
  match r.left with
  | [] => r
  | file :: rest => ⟨rest, r.texts ++ (disk.readText file).toOption.toList⟩

/-- The rules in what was read. -/
def rules (r : RuleReading) : RuleSet := .ofSources r.texts

/-- The rules in the end, if the disk stays as it is. -/
def finish (disk : Disk) (r : RuleReading) : RuleSet :=
  .ofSources (r.texts ++ r.left.filterMap fun file => (disk.readText file).toOption)

end RuleReading

end PagePreview
