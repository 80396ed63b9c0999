import PagePreview.Disk.Basic

/-!
# Changes to one file

A file is written, created, replaced or removed at one place, and everything else stays as it is.
-/

namespace PagePreview.Disk

/-- From one disk to another, at most the file at a location is changed. -/
structure FileChange (l : Location) (before after : Disk) : Prop where
  /-- The working directory is the same. -/
  home : after.home = before.home
  /-- Elsewhere nothing is changed. -/
  others : ∀ m, m ≠ l → after.get? m = before.get? m
  /-- There was no directory. -/
  was_file : before.get? l ≠ some .directory
  /-- There is no directory. -/
  is_file : after.get? l ≠ some .directory

end PagePreview.Disk
