import PagePreview.Disk.Change
import PagePreview.Proofs.PathTargets
import PagePreview.Proofs.RuleSources

/-!
# What a change to one file leaves alone

Paths lead through directories, and a change to a file changes no directory. So every path that led
somewhere else leads there still, and what it leads to is the same: a text can only change if its
path led to the changed file, or leads to it now.
-/

namespace PagePreview.Disk

variable {l : Location} {before after : Disk}

/-- A change of a file can be undone by one. -/
theorem FileChange.symm (h : FileChange l before after) : FileChange l after before :=
  ⟨h.home.symm, fun m hm => (h.others m hm).symm, h.is_file, h.was_file⟩

/-- No path leads on from a file. -/
theorem enter_of_not_directory {d : Disk} (h : d.get? l ≠ some .directory) (piece : String)
    (m : Location) : d.enter l piece ≠ .ok m := fun henter => h (enter_eq_ok henter).1

/-- A path that does not lead to the changed file is followed through the same directories. -/
theorem FileChange.enter (h : FileChange l before after) {m n : Location} {piece : String}
    (henter : before.enter m piece = .ok n) (hn : n ≠ l) : after.enter m piece = .ok n := by
  have hm : m ≠ l := by
    rintro rfl
    exact enter_of_not_directory h.was_file piece n henter
  refine enter_of_there henter (fun hdir => ?_) (fun hthere => ?_)
  · rw [h.others m hm]
    exact hdir
  · rw [h.others n hn]
    exact hthere

/-- Piece by piece, a path that does not end at the changed file never meets it. -/
theorem FileChange.follow (h : FileChange l before after) {m n : Location} {pieces : List String}
    (hfollow : pieces.foldlM before.enter m = .ok n) (hn : n ≠ l) :
    pieces.foldlM after.enter m = .ok n := by
  induction pieces generalizing m with
  | nil => exact hfollow
  | cons piece rest ih =>
    rw [List.foldlM_cons] at hfollow ⊢
    cases hfirst : before.enter m piece with
    | error e =>
      rw [hfirst] at hfollow
      cases hfollow
    | ok next =>
      rw [hfirst] at hfollow
      have hrest : rest.foldlM before.enter next = .ok n := hfollow
      have hnext : next ≠ l := by
        rintro rfl
        cases rest with
        | nil =>
          cases hrest
          exact hn rfl
        | cons second others =>
          rw [List.foldlM_cons] at hrest
          cases hsecond : before.enter next second with
          | error e =>
            rw [hsecond] at hrest
            cases hrest
          | ok m => exact enter_of_not_directory h.was_file second m hsecond
      rw [h.enter hfirst hnext]
      exact ih hrest

/-- A path that leads elsewhere before the change leads there after it. -/
theorem FileChange.locate (h : FileChange l before after) {path : String} {m : Location}
    (hlocate : before.locate path = .ok m) (hm : m ≠ l) : after.locate path = .ok m :=
  locate_of_follow h.home hlocate (h.follow (follow_of_locate hlocate) hm)

/-- So what is read there is the same. -/
theorem FileChange.read (h : FileChange l before after) {path : String} {content : Bytes}
    (hread : before.read path = .ok content) (hl : before.locate path ≠ .ok l) :
    after.read path = .ok content := by
  unfold Disk.read Disk.lookup at hread ⊢
  cases hlocate : before.locate path with
  | error e =>
    rw [hlocate] at hread
    cases hread
  | ok m =>
    have hm : m ≠ l := by
      rintro rfl
      exact hl hlocate
    rw [hlocate] at hread
    rw [h.locate hlocate hm]
    dsimp only at hread ⊢
    rw [h.others m hm]
    exact hread

/-- The text of a file stays as it is, unless its path led or leads to the changed file. -/
theorem FileChange.textOf? (h : FileChange l before after) {path : String}
    (hbefore : before.locate path ≠ .ok l) (hafter : after.locate path ≠ .ok l) :
    RuleSet.textOf? after path = RuleSet.textOf? before path := by
  have hkept : ∀ {d e : Disk}, FileChange l d e → d.locate path ≠ .ok l → ∀ text,
      RuleSet.textOf? d path = some text → RuleSet.textOf? e path = some text := by
    intro d e hchange hl text htext
    unfold RuleSet.textOf? readText at htext ⊢
    cases hread : d.read path with
    | error e =>
      rw [hread] at htext
      cases htext
    | ok content =>
      rw [hread] at htext
      rw [hchange.read hread hl]
      exact htext
  cases hb : RuleSet.textOf? before path with
  | some text => exact hkept h hbefore text hb
  | none =>
    cases ha : RuleSet.textOf? after path with
    | none => rfl
    | some text =>
      rw [hkept h.symm hafter text ha] at hb
      cases hb

/-! ## Writing and removing -/

/-- Whether something is kept or left out at one place makes no difference at another. -/
theorem find?_filter_of_ne (nodes : List (Location × Node)) {m : Location} (h : m ≠ l) :
    (nodes.filter (·.1 != l)).find? (·.1 == m) = nodes.find? (·.1 == m) := by
  rw [List.find?_filter]
  congr 1
  funext node
  by_cases hm : node.1 = m
  · simp [hm, h]
  · simp [hm]

/-- What is put at a location is seen nowhere else. -/
theorem get?_put_of_ne (d : Disk) {m : Location} (h : m ≠ l) (n : Node) :
    (d.put l n).get? m = d.get? m := by
  have hne : (l == m) = false := by simpa using h.symm
  unfold get? put
  dsimp only
  rw [List.find?_cons, hne]
  dsimp only
  rw [find?_filter_of_ne d.nodes h]

/-- What is cleared at a location is missed nowhere else. -/
theorem get?_clear_of_ne (d : Disk) {m : Location} (h : m ≠ l) :
    (d.clear l).get? m = d.get? m := by
  unfold get? clear
  dsimp only
  rw [find?_filter_of_ne d.nodes h]

/-- What is no directory does not lead to the working directory. -/
theorem not_isPrefixOf_home {d : Disk} (h : d.get? l ≠ some .directory) :
    l.isPrefixOf d.home = false := by
  by_contra hprefix
  apply h
  unfold get?
  rw [if_pos (by simpa using hprefix)]

/-- Writing where there is no directory changes a file. -/
theorem fileChange_put {d : Disk} (h : d.get? l ≠ some .directory) (content : Bytes) :
    FileChange l d (d.put l (.file content)) := by
  refine ⟨rfl, fun m hm => get?_put_of_ne d hm _, h, ?_⟩
  unfold get? put
  dsimp only
  rw [not_isPrefixOf_home h, List.find?_cons, beq_self_eq_true]
  exact nofun

/-- So does removing. -/
theorem fileChange_clear {d : Disk} (h : d.get? l ≠ some .directory) :
    FileChange l d (d.clear l) := by
  refine ⟨rfl, fun m hm => get?_clear_of_ne d hm, h, ?_⟩
  have hnone : (d.nodes.filter (·.1 != l)).find? (·.1 == l) = none := by
    rw [List.find?_eq_none]
    intro node hnode
    simpa using List.of_mem_filter hnode
  unfold get? clear
  dsimp only
  rw [not_isPrefixOf_home h, hnone]
  exact nofun

/-- A file that is written where there are directories is a change to this file. -/
theorem fileChange_write {d : Disk} {path : String} (content : Bytes) (hl : d.target path = l)
    (hdirs : d.makeDirectories l.dropLast = some d) (h : d.get? l ≠ some .directory) :
    FileChange l d (d.write path content) := by
  unfold write
  dsimp only
  rw [hl, hdirs]
  dsimp only
  rw [if_neg h]
  exact fileChange_put h content

/-- A file that is removed is a change to this file. -/
theorem fileChange_remove {d : Disk} {path : String} (content : Bytes)
    (hlocate : d.locate path = .ok l) (h : d.get? l = some (.file content)) :
    FileChange l d (d.remove path) := by
  have hfile : d.get? l ≠ some .directory := by
    rw [h]
    exact nofun
  unfold remove
  rw [hlocate]
  dsimp only
  rw [h]
  exact fileChange_clear hfile

end PagePreview.Disk
