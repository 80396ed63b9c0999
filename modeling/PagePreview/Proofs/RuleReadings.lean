import PagePreview.Proofs.RuleSources
import PagePreview.Rule.Reading

/-!
# What a reading of rule files comes to

A reading that is under way has some texts and some files to go. What it comes to is known before it
is over, as long as nobody touches the files that are still to be read, and a reading that nobody
disturbs comes to the rules that the files hold.
-/

namespace PagePreview.RuleReading

variable (disk : Disk) (r : RuleReading)

/-- A reading that begins comes to what the files hold. -/
theorem finish_ofFiles (files : List String) :
    (ofFiles files).finish disk = RuleSet.load disk files := rfl

/-- Reading a file now is part of reading all now. -/
theorem finish_next : (r.next disk).finish disk = r.finish disk := by
  obtain ⟨left, texts⟩ := r
  cases left with
  | nil => rfl
  | cons file rest =>
    unfold finish next
    dsimp only
    rw [List.filterMap_cons, List.append_assoc]
    cases (disk.readText file).toOption <;> rfl

/-- With every step one file less is left. -/
theorem length_left_next : (r.next disk).left.length = r.left.length - 1 := by
  obtain ⟨left, texts⟩ := r
  cases left <;> rfl

variable {disk r}

/-- What is left was left before. -/
theorem mem_of_mem_left_next {file : String} (h : file ∈ (r.next disk).left) : file ∈ r.left := by
  obtain ⟨left, texts⟩ := r
  cases left with
  | nil => exact h
  | cons first rest => exact List.mem_cons_of_mem first h

/-- A reading with nothing left has its rules. -/
theorem finish_of_left_eq_nil (h : r.left = []) : r.finish disk = r.rules := by
  unfold finish rules
  rw [h, List.filterMap_nil, List.append_nil]

/-- Only the files that are still to be read matter. -/
theorem finish_congr {other : Disk}
    (h : ∀ file ∈ r.left, RuleSet.textOf? other file = RuleSet.textOf? disk file) :
    r.finish other = r.finish disk := by
  have htexts : r.left.filterMap (RuleSet.textOf? other) =
      r.left.filterMap (RuleSet.textOf? disk) := List.filterMap_congr h
  unfold finish
  exact congrArg (fun texts => RuleSet.ofSources (r.texts ++ texts)) htexts

/-- Some files after another, from a disk that stays as it is. -/
def advance (disk : Disk) (n : Nat) (r : RuleReading) : RuleReading := Nat.repeat (next disk) n r

/-- Reading several files now is part of reading all now. -/
theorem finish_advance (disk : Disk) (n : Nat) (r : RuleReading) :
    (r.advance disk n).finish disk = r.finish disk := by
  induction n with
  | zero => rfl
  | succ n ih =>
    change ((r.advance disk n).next disk).finish disk = r.finish disk
    rw [finish_next, ih]

/-- After several steps so many files less are left. -/
theorem length_left_advance (disk : Disk) (n : Nat) (r : RuleReading) :
    (r.advance disk n).left.length = r.left.length - n := by
  induction n with
  | zero => rfl
  | succ n ih =>
    change ((r.advance disk n).next disk).left.length = r.left.length - (n + 1)
    rw [length_left_next, ih]
    omega

/-- After a step for each of them none is left. -/
theorem left_advance (disk : Disk) (r : RuleReading) :
    (r.advance disk r.left.length).left = [] := by
  have hlength := length_left_advance disk r.left.length r
  rw [Nat.sub_self] at hlength
  exact List.length_eq_zero_iff.mp hlength

/-- Files that are read without a change in between give the rules that they hold. -/
theorem rules_advance (disk : Disk) (files : List String) :
    ((ofFiles files).advance disk files.length).rules = RuleSet.load disk files := by
  have hleft : ((ofFiles files).advance disk files.length).left = [] :=
    left_advance disk (ofFiles files)
  rw [← finish_of_left_eq_nil hleft, finish_advance, finish_ofFiles]

end PagePreview.RuleReading
