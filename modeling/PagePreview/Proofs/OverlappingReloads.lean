import PagePreview.Proofs.RuleReadings
import PagePreview.Rule.Race

/-!
# Reloads that overlap

A reload that begins after the last change reads the files as they are, so what it publishes is what
they hold. But a reload that began earlier may have read a file as it was before and may publish
later, and then the old rules stay in force although every reload is over. What counts is which
reload publishes last.
-/

namespace PagePreview.ReloadRace

/-- Whether a reload begins. -/
def Move.starts : Move → Bool
  | .start => true
  | .edit _ => false
  | .read _ => false
  | .publish _ => false

/-- The reload that publishes. -/
def Move.publisher? : Move → Option Nat
  | .publish n => some n
  | .edit _ => none
  | .start => none
  | .read _ => none

/-- How many reloads have begun. -/
def begun (moves : List Move) : Nat := moves.countP Move.starts

/-- The reload that published last. -/
def lastPublisher? (moves : List Move) : Option Nat :=
  (moves.filterMap Move.publisher?).getLast?

/-- The last to publish in two runs is that of the second, if it has one. -/
theorem lastPublisher?_append (front back : List Move) :
    lastPublisher? (front ++ back) = (lastPublisher? back).or (lastPublisher? front) := by
  unfold lastPublisher?
  rw [List.filterMap_append, List.getLast?_append]

/-- A first move counts only if nobody publishes later. -/
theorem lastPublisher?_cons (move : Move) (rest : List Move) :
    lastPublisher? (move :: rest) = (lastPublisher? rest).or move.publisher? := by
  rw [← List.singleton_append, lastPublisher?_append]
  cases move <;> rfl

/-- Where a reload publishes, one is the last to do so. -/
theorem lastPublisher?_isSome {n : Nat} {moves : List Move} (h : .publish n ∈ moves) :
    (lastPublisher? moves).isSome := by
  unfold lastPublisher?
  rw [List.getLast?_isSome]
  exact List.ne_nil_of_mem (List.mem_filterMap.mpr ⟨_, h, rfl⟩)

variable {s t : ReloadRace} {move : Move} {moves : List Move}

/-! ## One step -/

/-- No step changes which files are read. -/
theorem Step.files (h : Step s move t) : t.store.files = s.store.files := by
  cases h <;> rfl

/-- Only an edit changes the files. -/
theorem Step.disk (h : Step s move t) (hm : ∀ d, move ≠ .edit d) : t.disk = s.disk := by
  cases h with
  | edit d => exact absurd rfl (hm d)
  | start => rfl
  | read running more => rfl
  | publish running done => rfl

/-- Only publishing changes the rules in force. -/
theorem Step.published (h : Step s move t) (hm : move.publisher? = none) :
    t.store.published = s.store.published := by
  cases h with
  | edit d => rfl
  | start => rfl
  | read running more => rfl
  | publish running done => cases hm

/-- Every reload that begins is one more. -/
theorem Step.length_reloads (h : Step s move t) :
    t.reloads.length = s.reloads.length + begun [move] := by
  cases h with
  | edit d => rfl
  | start => exact List.length_append
  | read running more => exact List.length_set
  | publish running done => exact List.length_set

/-- A reload that has begun is under way until it publishes. -/
theorem Step.running (h : Step s move t) {n : Nat} (hm : move ≠ .publish n)
    (hs : ∃ r, s.reloads[n]? = some (some r)) : ∃ r, t.reloads[n]? = some (some r) := by
  obtain ⟨r, hr⟩ := hs
  have hn : n < s.reloads.length := (List.getElem?_eq_some_iff.mp hr).1
  cases h with
  | edit d => exact ⟨r, hr⟩
  | start =>
    refine ⟨r, ?_⟩
    rw [List.getElem?_append_left hn, hr]
  | @read m q running more =>
    by_cases he : m = n
    · subst he
      exact ⟨_, List.getElem?_set_self hn⟩
    · refine ⟨r, ?_⟩
      rw [List.getElem?_set_ne he, hr]
  | @publish m q running done =>
    have he : m ≠ n := fun he => hm (he ▸ rfl)
    refine ⟨r, ?_⟩
    rw [List.getElem?_set_ne he, hr]

/-- The reloads from a number on come to what the files hold now. -/
def FreshFrom (k : Nat) (s : ReloadRace) : Prop :=
  ∀ n r, k ≤ n → s.reloads[n]? = some (some r) → r.finish s.disk = .load s.disk s.store.files

/-- While nothing is edited, reloads that come to what the files hold go on to do so. -/
theorem Step.freshFrom {k : Nat} (h : Step s move t) (hm : ∀ d, move ≠ .edit d)
    (hs : FreshFrom k s) : FreshFrom k t := by
  intro n r hk hr
  cases h with
  | edit d => exact absurd rfl (hm d)
  | start =>
    by_cases hn : n < s.reloads.length
    · rw [List.getElem?_append_left hn] at hr
      exact hs n r hk hr
    · rw [List.getElem?_append_right (Nat.not_lt.mp hn)] at hr
      obtain ⟨_, hnew⟩ := List.getElem?_eq_some_iff.mp hr
      simp only [List.getElem_singleton, Option.some.injEq] at hnew
      rw [← hnew]
      exact RuleReading.finish_ofFiles s.disk s.store.files
  | @read m q running more =>
    have hlength : m < s.reloads.length := (List.getElem?_eq_some_iff.mp running).1
    by_cases he : m = n
    · subst he
      rw [List.getElem?_set_self hlength] at hr
      cases hr
      rw [RuleReading.finish_next]
      exact hs m q hk running
    · rw [List.getElem?_set_ne he] at hr
      exact hs n r hk hr
  | @publish m q running done =>
    have hlength : m < s.reloads.length := (List.getElem?_eq_some_iff.mp running).1
    by_cases he : m = n
    · subst he
      rw [List.getElem?_set_self hlength] at hr
      cases hr
    · rw [List.getElem?_set_ne he] at hr
      exact hs n r hk hr

/-- What a reload that is fresh publishes is what the files hold now. -/
theorem Step.published_fresh {k n : Nat} (h : Step s (.publish n) t) (hk : k ≤ n)
    (hs : FreshFrom k s) : t.store.published = .load t.disk t.store.files := by
  cases h with
  | @publish _ r running done =>
    have hfinish := hs n r hk running
    rw [RuleReading.finish_of_left_eq_nil done] at hfinish
    exact hfinish

/-! ## A run -/

/-- A reload alone reads its files one by one. -/
theorem steps_read (disk : Disk) (store : RuleStore) (r : RuleReading) {n : Nat}
    (hn : n ≤ r.left.length) :
    Steps Step ⟨disk, store, [some r]⟩ (List.replicate n (.read 0))
      ⟨disk, store, [some (r.advance disk n)]⟩ := by
  induction n with
  | zero => exact .nil _
  | succ n ih =>
    have hmore : (r.advance disk n).left ≠ [] := by
      apply List.ne_nil_of_length_pos
      rw [RuleReading.length_left_advance]
      omega
    rw [List.replicate_succ']
    exact (ih (Nat.le_of_succ_le hn)).append (.cons (.read _ rfl hmore) (.nil _))

/-- A reload that is alone, while no file is changed, reloads the store. -/
theorem steps_reload (disk : Disk) (store : RuleStore) :
    Steps Step (ofStore disk store)
      (.start :: (List.replicate store.files.length (.read 0) ++ [.publish 0]))
      ⟨disk, store.reload disk, [none]⟩ := by
  have hread := steps_read disk store (.ofFiles store.files) (Nat.le_refl _)
  have hpublish := Step.publish ⟨disk, store, [some ((RuleReading.ofFiles store.files).advance disk
    store.files.length)]⟩ (n := 0) rfl (RuleReading.left_advance disk (.ofFiles store.files))
  rw [RuleReading.rules_advance] at hpublish
  exact .cons (.start _) (hread.append (.cons hpublish (.nil _)))

/-- No run changes which files are read. -/
theorem files_of_steps (h : Steps Step s moves t) : t.store.files = s.store.files := by
  induction h with
  | nil s => rfl
  | cons first rest ih => rw [ih, first.files]

/-- A run without edits leaves the files as they are. -/
theorem disk_of_steps (h : Steps Step s moves t) (hm : ∀ d, .edit d ∉ moves) :
    t.disk = s.disk := by
  induction h with
  | nil s => rfl
  | cons first rest ih =>
    rw [ih fun d hd => hm d (List.mem_cons_of_mem _ hd),
      first.disk fun d he => hm d (he ▸ List.mem_cons_self)]

/-- A run in which nobody publishes leaves the rules in force as they are. -/
theorem published_of_steps (h : Steps Step s moves t) (hm : lastPublisher? moves = none) :
    t.store.published = s.store.published := by
  induction h with
  | nil s => rfl
  | cons first rest ih =>
    rw [lastPublisher?_cons, Option.or_eq_none_iff] at hm
    rw [ih hm.1, first.published hm.2]

/-- After a run there are as many reloads more as have begun in it. -/
theorem length_reloads_of_steps (h : Steps Step s moves t) :
    t.reloads.length = s.reloads.length + begun moves := by
  induction h with
  | nil s => rfl
  | @cons _ _ _ move moves first rest ih =>
    rw [ih, first.length_reloads, Nat.add_assoc]
    unfold begun
    rw [← List.countP_append, List.singleton_append]

/-- A reload that is under way publishes before everything is over. -/
theorem publish_mem_of_settled (h : Steps Step s moves t) (ht : t.Settled) {n : Nat}
    (hs : ∃ r, s.reloads[n]? = some (some r)) : .publish n ∈ moves := by
  by_contra hnone
  have hrunning : ∃ r, t.reloads[n]? = some (some r) :=
    h.keeps (P := fun x => ∃ r, x.reloads[n]? = some (some r))
      (fun x a y ha hstep hx => hstep.running (fun he => hnone (he ▸ ha)) hx) hs
  obtain ⟨r, hr⟩ := hrunning
  cases ht _ (List.mem_of_getElem? hr)

/-- If nothing is changed and the last to publish is fresh, its rules are those of the files. -/
theorem published_of_last_fresh {k n : Nat} (h : Steps Step s moves t)
    (hm : ∀ d, .edit d ∉ moves) (hs : FreshFrom k s) (hlast : lastPublisher? moves = some n)
    (hk : k ≤ n) : t.store.published = .load t.disk t.store.files := by
  induction h with
  | nil s => cases hlast
  | @cons s m t move moves first rest ih =>
    have hfirst : ∀ d, move ≠ .edit d := fun d he => hm d (he ▸ List.mem_cons_self)
    have hrest : ∀ d, .edit d ∉ moves := fun d hd => hm d (List.mem_cons_of_mem _ hd)
    rw [lastPublisher?_cons] at hlast
    cases hlater : lastPublisher? moves with
    | some later =>
      rw [hlater] at hlast
      cases hlast
      exact ih hrest (first.freshFrom hfirst hs) hlater
    | none =>
      -- Nobody publishes after this step, so this is the last to publish.
      rw [hlater, Option.none_or] at hlast
      cases move with
      | publish number =>
        cases hlast
        rw [published_of_steps rest hlater, first.published_fresh hk hs,
          disk_of_steps rest hrest, files_of_steps rest]
      | edit d => cases hlast
      | start => cases hlast
      | read number => cases hlast

/-- Once every reload is over, and one of them began after the last change, the rules in force are
those that the files hold, provided that the last to publish is one that began after the change. -/
theorem settled_race_is_current {disk : Disk} {store : RuleStore} {moves before after : List Move}
    {t : ReloadRace} (hrun : Steps Step (ofStore disk store) moves t) (hsettled : t.Settled)
    (hmoves : moves = before ++ .start :: after) (hedits : ∀ d, .edit d ∉ after)
    (hlast : ∀ n, lastPublisher? moves = some n → begun before ≤ n) :
    t.store.published = .load t.disk store.files := by
  subst hmoves
  obtain ⟨s, hbefore, hrest⟩ := hrun.append_inv
  obtain ⟨m, hstart, hafter⟩ := hrest.cons_inv
  have hcount : s.reloads.length = begun before := by
    rw [length_reloads_of_steps hbefore]
    exact Nat.zero_add _
  cases hstart
  -- The reload that has just begun is fresh, and so is every later one.
  have hfresh : FreshFrom (begun before)
      { s with reloads := s.reloads ++ [some (.ofFiles s.store.files)] } := by
    intro n r hn hr
    dsimp only at hr ⊢
    rw [List.getElem?_append_right (hcount ▸ hn)] at hr
    obtain ⟨_, hnew⟩ := List.getElem?_eq_some_iff.mp hr
    simp only [List.getElem_singleton, Option.some.injEq] at hnew
    rw [← hnew]
    exact RuleReading.finish_ofFiles s.disk s.store.files
  have hpublishes : .publish s.reloads.length ∈ after := by
    refine publish_mem_of_settled hafter hsettled ⟨.ofFiles s.store.files, ?_⟩
    exact List.getElem?_concat_length
  obtain ⟨n, hn⟩ := Option.isSome_iff_exists.mp (lastPublisher?_isSome hpublishes)
  have hlater : begun before ≤ n := by
    apply hlast
    rw [lastPublisher?_append, lastPublisher?_cons, hn]
    rfl
  have hfiles : t.store.files = store.files := by
    rw [files_of_steps hafter]
    exact files_of_steps hbefore
  rw [published_of_last_fresh hafter hedits hfresh hn hlater, hfiles]

/-- Of two reloads that have read everything, the one that publishes last has its way. -/
theorem steps_publish_both (disk : Disk) (store : RuleStore) {first second : RuleReading}
    (hfirst : first.left = []) (hsecond : second.left = []) :
    Steps Step ⟨disk, store, [some first, some second]⟩ [.publish 0, .publish 1]
        ⟨disk, store.replace second.rules, [none, none]⟩ ∧
      Steps Step ⟨disk, store, [some first, some second]⟩ [.publish 1, .publish 0]
        ⟨disk, store.replace first.rules, [none, none]⟩ :=
  ⟨.cons (.publish _ rfl hfirst) <| .cons (.publish _ rfl hsecond) <| .nil _,
    .cons (.publish _ rfl hsecond) <| .cons (.publish _ rfl hfirst) <| .nil _⟩

/-- A disk with a file of one rule. -/
def ruleFile (rule : String) : Disk :=
  (Disk.empty ["srv"]).write "a.conf" (Utf8.encode rule)

/-- A store with this file. -/
def oneFile : RuleStore := .ofFiles ["a.conf"] .perRequest

/-- A reload of the file from a disk that has read it. -/
def readFrom (rule : String) : RuleReading := (RuleReading.ofFiles ["a.conf"]).next (ruleFile rule)

/-- A reload reads the file, the file is changed, and another reload reads it. -/
def editedBetween : List Move :=
  [.start, .read 0, .edit (ruleFile "rewrite ^ /b"), .start, .read 1]

/-- The file is edited between two reloads, and both have read it. -/
theorem steps_editedBetween :
    Steps Step (ofStore (ruleFile "rewrite ^ /a") oneFile) editedBetween
      ⟨ruleFile "rewrite ^ /b", oneFile,
        [some (readFrom "rewrite ^ /a"), some (readFrom "rewrite ^ /b")]⟩ := by
  have hmore : (RuleReading.ofFiles oneFile.files).left ≠ [] := List.cons_ne_nil _ _
  exact .cons (.start _) <| .cons (.read _ rfl hmore) <| .cons (.edit _ _) <| .cons (.start _) <|
    .cons (.read _ rfl hmore) <| .nil _

/-- If the second reload publishes last, the new rules are in force. -/
theorem settled_race_is_current_in_order :
    ∃ t, Steps Step (ofStore (ruleFile "rewrite ^ /a") oneFile)
        (editedBetween ++ [.publish 0, .publish 1]) t ∧ t.Settled ∧
      t.disk = ruleFile "rewrite ^ /b" ∧
      t.store.published = .load t.disk oneFile.files := by
  have hrun := steps_editedBetween.append (steps_publish_both _ oneFile rfl rfl).1
  have hsettled : Settled ⟨ruleFile "rewrite ^ /b",
      oneFile.replace (readFrom "rewrite ^ /b").rules, [none, none]⟩ := by
    intro r hr
    simpa using hr
  have hmoves : editedBetween ++ [.publish 0, .publish 1] =
      [.start, .read 0, .edit (ruleFile "rewrite ^ /b")] ++
        .start :: [.read 1, .publish 0, .publish 1] := rfl
  exact ⟨_, hrun, hsettled, rfl,
    settled_race_is_current hrun hsettled hmoves (by simp) (by decide)⟩

/-- If the first reload publishes last, the old rules stay in force, although both are over and the
second began after the change. -/
theorem overtaken_reload_leaves_old_rules :
    ∃ t, Steps Step (ofStore (ruleFile "rewrite ^ /a") oneFile)
        (editedBetween ++ [.publish 1, .publish 0]) t ∧ t.Settled ∧
      (∃ before after, editedBetween ++ [.publish 1, .publish 0] = before ++ .start :: after ∧
        ∀ d, .edit d ∉ after) ∧
      t.store.published.map Rule.target = ["/a"] ∧
      (RuleSet.load t.disk oneFile.files).map Rule.target = ["/b"] := by
  refine ⟨_, steps_editedBetween.append (steps_publish_both _ oneFile rfl rfl).2, ?_, ?_, ?_, ?_⟩
  · intro r hr
    simpa using hr
  · exact ⟨[.start, .read 0, .edit (ruleFile "rewrite ^ /b")], [.read 1, .publish 1, .publish 0],
      rfl, by simp⟩
  · decide +kernel
  · decide +kernel

end PagePreview.ReloadRace
