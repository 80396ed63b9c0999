import PagePreview.Proofs.DiskChanges
import PagePreview.Proofs.RuleReadings
import PagePreview.Rule.LiveUpdate

/-!
# No change is lost on the way to the store

While files change, the watcher may read some of them before a change and others after it, and a set
that is on its way may be old when it is published. But after the last change of a rule file either
its report is still waiting, or the watcher has begun to read since then. In the first case what is
on its way does not matter, and in the second the last set on its way holds what the files hold. So
when nothing is on its way any more, the rules in force are those of the files.
-/

namespace PagePreview.LiveRules

variable {s t : LiveRules} {move : Move} {moves : List Move} {P : Location → Prop}

/-- The set that is published last if no report is taken any more. -/
def outcome (s : LiveRules) : RuleSet :=
  match s.reading with
  | some r => r.finish s.disk
  | none => s.sets.getLast?.getD s.published

/-- What the parties may rely on: the loop runs, and only rule files are read. -/
structure Working (s : LiveRules) : Prop where
  /-- The loop has not ended. -/
  running : s.loop.running = true
  /-- What is to be read are rule files. -/
  files : ∀ r, s.reading = some r → ∀ file ∈ r.left, file ∈ s.watcher.files

/-- Either a report of some kind is waiting, or the set that is published last holds what the rule
files hold now. -/
def OnTheWay (P : Location → Prop) (s : LiveRules) : Prop :=
  (∃ l ∈ s.changes, P l) ∨ s.outcome = .load s.disk s.watcher.files

/-- A watcher that has registered works. -/
theorem working_registered (w : RuleWatcher) (disk : Disk) (store : RuleStore) :
    Working (registered w disk store) := by
  refine ⟨rfl, fun r hr => ?_⟩
  cases hr

/-! ## One step -/

/-- No step changes what is watched. -/
theorem Step.watcher (h : Step s move t) : t.watcher = s.watcher := by
  cases h <;> rfl

/-- Every step leaves the parties working. -/
theorem Step.working (h : Step s move t) (hs : Working s) : Working t := by
  obtain ⟨hrunning, hfiles⟩ := hs
  cases h with
  | edit change => exact ⟨hrunning, hfiles⟩
  | @take l rest oldest idle =>
    refine ⟨hrunning, fun r hr file hfile => ?_⟩
    dsimp only at hr
    split at hr
    · cases hr
      exact hfile
    · cases hr
  | read running more =>
    refine ⟨hrunning, fun r hr file hfile => ?_⟩
    cases hr
    exact hfiles _ running file (RuleReading.mem_of_mem_left_next hfile)
  | send running done =>
    refine ⟨hrunning, fun r hr => ?_⟩
    cases hr
  | publish oldest =>
    refine ⟨?_, hfiles⟩
    unfold UpdateLoop.step
    rw [if_pos hrunning]
    exact hrunning

/-- A set that is published was sent before the others, so what comes out in the end is the same. -/
theorem outcome_publish (hs : Working s) {rules : RuleSet} {rest : List RuleSet}
    (oldest : s.sets = rules :: rest) :
    outcome { s with sets := rest, loop := s.loop.step (.update rules) } = s.outcome := by
  have hpublished : (s.loop.step (.update rules)).store.published = rules := by
    unfold UpdateLoop.step
    rw [if_pos hs.running]
    rfl
  unfold outcome published
  dsimp only
  cases s.reading with
  | some r => rfl
  | none =>
    dsimp only
    rw [oldest, hpublished, List.getLast?_cons, Option.getD_some]

/-- Only a change and a report that is taken bear on what comes out in the end. -/
theorem Step.outcome (h : Step s move t) (hs : Working s) (hedit : ∀ l d, move ≠ .edit l d)
    (htake : move ≠ .take) : t.outcome = s.outcome := by
  cases h with
  | edit change => exact absurd rfl (hedit _ _)
  | take oldest idle => exact absurd rfl htake
  | read running more =>
    unfold LiveRules.outcome
    rw [running]
    exact RuleReading.finish_next s.disk _
  | send running done =>
    unfold LiveRules.outcome
    rw [running]
    dsimp only
    rw [List.getLast?_concat, RuleReading.finish_of_left_eq_nil done]
    rfl
  | publish oldest => exact outcome_publish hs oldest

/-- A change that leaves the texts of the rule files alone changes nothing that is on its way. -/
theorem outcome_edit (hs : Working s) {l : Location} {disk : Disk}
    (htexts : ∀ file ∈ s.watcher.files, RuleSet.textOf? disk file = RuleSet.textOf? s.disk file) :
    outcome { s with disk, changes := s.changes ++ [l] } = s.outcome := by
  unfold outcome published
  dsimp only
  cases hreading : s.reading with
  | none => rfl
  | some r =>
    exact RuleReading.finish_congr fun file hfile => htexts file (hs.files r hreading file hfile)

/-- A watcher that begins to read will send what the files hold, whatever was sent before. -/
theorem outcome_take_relevant {l : Location} (rest : List Location)
    (hl : s.watcher.isRelevant s.disk l) :
    outcome { s with
      changes := rest
      reading := if s.watcher.isRelevant s.disk l then some (.ofFiles s.watcher.files)
        else none } = .load s.disk s.watcher.files := by
  unfold outcome
  dsimp only
  rw [if_pos hl]
  exact RuleReading.finish_ofFiles s.disk s.watcher.files

/-- A report that is not relevant changes nothing. -/
theorem outcome_take_irrelevant {l : Location} (rest : List Location) (idle : s.reading = none)
    (hl : ¬s.watcher.isRelevant s.disk l) :
    outcome { s with
      changes := rest
      reading := if s.watcher.isRelevant s.disk l then some (.ofFiles s.watcher.files)
        else none } = s.outcome := by
  unfold outcome published
  dsimp only
  rw [if_neg hl, idle]

/-- No step loses what is on its way, if the reports of some kind are recognised, and all changes to
the texts of rule files are of this kind. -/
theorem Step.onTheWay (h : Step s move t) (hs : Working s)
    (hrecognised : move = .take → ∀ l rest, s.changes = l :: rest → P l →
      s.watcher.isRelevant s.disk l)
    (hothers : ∀ l d, move = .edit l d → ¬P l →
      ∀ file ∈ s.watcher.files, RuleSet.textOf? d file = RuleSet.textOf? s.disk file)
    (hway : OnTheWay P s) : OnTheWay P t := by
  cases h with
  | @edit l disk change =>
    by_cases hl : P l
    · exact .inl ⟨l, List.mem_append_right _ List.mem_cons_self, hl⟩
    rcases hway with ⟨m, hm, hp⟩ | hway
    · exact .inl ⟨m, List.mem_append_left _ hm, hp⟩
    · right
      have htexts := hothers l disk rfl hl
      rw [outcome_edit hs htexts, hway]
      exact (RuleSet.load_congr htexts).symm
  | @take l rest oldest idle =>
    by_cases hrelevant : s.watcher.isRelevant s.disk l
    · exact .inr (outcome_take_relevant rest hrelevant)
    rcases hway with ⟨m, hm, hp⟩ | hway
    · rw [oldest] at hm
      rcases List.mem_cons.mp hm with rfl | hm
      · exact absurd (hrecognised rfl m rest oldest hp) hrelevant
      · exact .inl ⟨m, hm, hp⟩
    · exact .inr ((outcome_take_irrelevant rest idle hrelevant).trans hway)
  | read running more =>
    exact hway.imp_right ((Step.read s running more).outcome hs nofun nofun).trans
  | send running done =>
    exact hway.imp_right ((Step.send s running done).outcome hs nofun nofun).trans
  | publish oldest =>
    exact hway.imp_right ((Step.publish s oldest).outcome hs nofun nofun).trans

/-! ## A watcher that nobody disturbs -/

/-- A report that is relevant makes the watcher read all files. -/
theorem Step.take_relevant (s : LiveRules) {l : Location} {rest : List Location}
    (oldest : s.changes = l :: rest) (idle : s.reading = none)
    (hl : s.watcher.isRelevant s.disk l) :
    Step s .take { s with changes := rest, reading := some (.ofFiles s.watcher.files) } := by
  have htake := Step.take s oldest idle
  rwa [if_pos hl] at htake

/-- A watcher reads file after file. -/
theorem steps_read (s : LiveRules) {r : RuleReading} (running : s.reading = some r) {n : Nat}
    (hn : n ≤ r.left.length) :
    Steps Step s (List.replicate n .read) { s with reading := some (r.advance s.disk n) } := by
  induction n with
  | zero =>
    obtain ⟨watcher, disk, changes, reading, sets, loop⟩ := s
    cases running
    exact .nil _
  | succ n ih =>
    have hmore : (r.advance s.disk n).left ≠ [] := by
      intro hnil
      have hlength := RuleReading.length_left_advance s.disk n r
      rw [hnil, List.length_nil] at hlength
      omega
    rw [List.replicate_succ']
    exact (ih (Nat.le_of_succ_le hn)).append (.cons (.read _ rfl hmore) (.nil _))

/-- What a watcher does about a report if nobody comes in between. -/
def callback (s : LiveRules) (l : Location) : List Move :=
  .take :: if s.watcher.isRelevant s.disk l then
    List.replicate s.watcher.files.length .read ++ [.send] else []

/-- If nobody comes in between, the watcher sends what it is to send when a file changes. -/
theorem steps_callback (s : LiveRules) {l : Location} {rest : List Location}
    (oldest : s.changes = l :: rest) (idle : s.reading = none) :
    Steps Step s (s.callback l)
      { s with changes := rest, sets := s.sets ++ (s.watcher.onChange? s.disk l).toList } := by
  obtain ⟨watcher, disk, changes, reading, sets, loop⟩ := s
  cases idle
  cases oldest
  unfold callback RuleWatcher.onChange?
  dsimp only
  by_cases hl : watcher.isRelevant disk l
  · rw [if_pos hl, if_pos hl]
    have hread := steps_read ⟨watcher, disk, rest, some (.ofFiles watcher.files), sets, loop⟩ rfl
      (Nat.le_refl (RuleReading.ofFiles watcher.files).left.length)
    have hsend := Step.send
      ⟨watcher, disk, rest, some ((RuleReading.ofFiles watcher.files).advance disk
        watcher.files.length), sets, loop⟩ rfl
      (RuleReading.left_advance disk (.ofFiles watcher.files))
    rw [RuleReading.rules_advance] at hsend
    exact .cons (.take_relevant _ rfl rfl hl) (hread.append (.cons hsend (.nil _)))
  · have htake : Step ⟨watcher, disk, l :: rest, none, sets, loop⟩ .take
        ⟨watcher, disk, rest, none, sets, loop⟩ := by
      have htake := Step.take ⟨watcher, disk, l :: rest, none, sets, loop⟩ rfl rfl
      rwa [if_neg hl] at htake
    rw [if_neg hl, if_neg hl, Option.toList_none, List.append_nil]
    exact .cons htake (.nil _)

/-! ## A run -/

/-- The disk after a change. -/
def Move.disk? : Move → Option Disk
  | .edit _ disk => some disk
  | .take => none
  | .read => none
  | .send => none
  | .publish => none

/-- The disks that there are in the course of a run. -/
def disks (start : Disk) (moves : List Move) : List Disk := start :: moves.filterMap Move.disk?

/-- A place where in the course of a run a rule file is or has been. -/
def RulePlace (files : List String) (start : Disk) (moves : List Move) (l : Location) : Prop :=
  ∃ disk ∈ disks start moves, ∃ file ∈ files, disk.locate file = .ok l

/-- The disks of what follows a step are among those of the whole run. -/
theorem Step.disks_subset (h : Step s move t) (moves : List Move) :
    disks t.disk moves ⊆ disks s.disk (move :: moves) := by
  intro d hd
  unfold disks at hd ⊢
  cases h with
  | edit change => exact List.mem_cons_of_mem _ hd
  | take oldest idle => exact hd
  | read running more => exact hd
  | send running done => exact hd
  | publish oldest => exact hd

/-- A change at a place where no rule file is or has been leaves the texts of rule files alone. -/
theorem Step.texts_of_edit (h : Step s move t)
    (hplaces : ∀ d ∈ disks s.disk (move :: moves), ∀ file ∈ s.watcher.files, ∀ l,
      d.locate file = .ok l → P l) {l : Location} {d : Disk} (hm : move = .edit l d) (hl : ¬P l) :
    ∀ file ∈ s.watcher.files, RuleSet.textOf? d file = RuleSet.textOf? s.disk file := by
  intro file hfile
  cases h with
  | edit change =>
    cases hm
    apply change.textOf?
    · exact fun hlocate => hl (hplaces s.disk List.mem_cons_self file hfile l hlocate)
    · exact fun hlocate =>
        hl (hplaces d (List.mem_cons_of_mem _ List.mem_cons_self) file hfile l hlocate)
  | take oldest idle => cases hm
  | read running more => cases hm
  | send running done => cases hm
  | publish oldest => cases hm

/-- In the course of a run, the reports of some kind are found relevant when they are taken. -/
def Recognised (P : Location → Prop) (s : LiveRules) (moves : List Move) : Prop :=
  ∀ front back m l rest, moves = front ++ .take :: back → Steps Step s front m →
    m.changes = l :: rest → P l → m.watcher.isRelevant m.disk l

/-- No run changes what is watched. -/
theorem watcher_of_steps (h : Steps Step s moves t) : t.watcher = s.watcher := by
  induction h with
  | nil s => rfl
  | cons first rest ih => rw [ih, first.watcher]

/-- The disk after a run is one of those that there are in it. -/
theorem disk_mem_of_steps (h : Steps Step s moves t) (later : List Move) :
    t.disk ∈ disks s.disk (moves ++ later) := by
  induction h with
  | nil s => exact List.mem_cons_self
  | cons first rest ih => exact first.disks_subset _ ih

/-- Reports that would be relevant at any time of the run are recognised. -/
theorem recognised_of_disks
    (h : ∀ l, P l → ∀ d ∈ disks s.disk moves, s.watcher.isRelevant d l) :
    Recognised P s moves := by
  intro front back m l rest hmoves hfront _ hl
  rw [watcher_of_steps hfront]
  apply h l hl
  rw [hmoves]
  exact disk_mem_of_steps hfront (.take :: back)

/-- Once a rule file has been changed, nothing is lost any more. -/
theorem onTheWay_of_steps (h : Steps Step s moves t) (hs : Working s)
    (hrecognised : Recognised P s moves)
    (hplaces : ∀ d ∈ disks s.disk moves, ∀ file ∈ s.watcher.files, ∀ l,
      d.locate file = .ok l → P l)
    (hway : OnTheWay P s ∨ ∃ l d, .edit l d ∈ moves ∧ P l) : OnTheWay P t := by
  induction h with
  | nil s =>
    rcases hway with hway | ⟨l, d, hmem, -⟩
    · exact hway
    · cases hmem
  | @cons s m t move moves first rest ih =>
    have hsubset := first.disks_subset moves
    have hnow : move = .take → ∀ l rest, s.changes = l :: rest → P l →
        s.watcher.isRelevant s.disk l := by
      rintro rfl l rest oldest hl
      exact hrecognised [] moves s l rest rfl (.nil s) oldest hl
    apply ih (first.working hs)
    · intro front back m l rest hmoves hfront
      exact hrecognised (move :: front) back m l rest (congrArg (move :: ·) hmoves)
        (.cons first hfront)
    · rw [first.watcher]
      exact fun d hd => hplaces d (hsubset hd)
    rcases hway with hway | ⟨l, d, hmem, hl⟩
    · exact .inl (first.onTheWay hs hnow (fun l d => first.texts_of_edit hplaces) hway)
    rcases List.mem_cons.mp hmem with rfl | hmem
    -- The report of the first change of a rule file comes to wait.
    · cases first
      exact .inl (.inl ⟨l, List.mem_append_right _ List.mem_cons_self, hl⟩)
    · exact .inr ⟨l, d, hmem, hl⟩

/-- When nothing is on its way, the rules in force are what comes out. -/
theorem outcome_of_idle (h : s.Idle) : s.outcome = s.published := by
  unfold outcome
  rw [h.reading, h.sets]
  rfl

/-- When nothing is on its way any more, the rules in force are those of the files. -/
theorem load_of_onTheWay (h : OnTheWay P s) (hidle : s.Idle) :
    s.published = .load s.disk s.watcher.files := by
  rcases h with ⟨l, hl, -⟩ | h
  · rw [hidle.changes] at hl
    cases hl
  · rw [← outcome_of_idle hidle, h]

/-- However changes of files, the watcher and the loop take turns: if a rule file was changed, and
the reports of such changes are recognised when they are taken, then whenever nothing is on its way
the rules in force are those that the files hold. A store that reads its files for every request
would use the same ones. -/
theorem idle_is_current {w : RuleWatcher} {disk : Disk} {store : RuleStore} {moves : List Move}
    {t : LiveRules} (hrun : Steps Step (registered w disk store) moves t)
    (hrecognised : Recognised (RulePlace w.files disk moves) (registered w disk store) moves)
    (hedit : ∃ l d, .edit l d ∈ moves ∧ RulePlace w.files disk moves l) (hidle : t.Idle) :
    t.published = .load t.disk w.files ∧
      t.published = ((RuleStore.ofFiles w.files .perRequest).forRequest t.disk).published := by
  have hplaces : ∀ d ∈ disks disk moves, ∀ file ∈ w.files, ∀ l, d.locate file = .ok l →
      RulePlace w.files disk moves l := fun d hd file hfile l hl => ⟨d, hd, file, hfile, hl⟩
  have hway := onTheWay_of_steps hrun (working_registered w disk store) hrecognised hplaces
    (.inr hedit)
  have hload := load_of_onTheWay hway hidle
  rw [watcher_of_steps hrun] at hload
  exact ⟨hload, hload⟩

/-- The second of two rule files is changed, and while the watcher reads them the first one, so that
the watcher sends a set in which old and new meet. -/
def editedWhileRead (a b : Location) (between last : Disk) : List Move :=
  [.edit b between, .take, .read, .edit a last, .read, .send, .publish,
    .take, .read, .read, .send, .publish]

/-- The run in which a file is changed while the files are read. -/
theorem steps_editedWhileRead {first second : String} {dirs : List (List Path.Component)}
    {a b : Location} {disk between last : Disk} (store : RuleStore)
    (hb : Disk.FileChange b disk between) (ha : Disk.FileChange a between last)
    (hb' : RuleWatcher.isRelevant between ⟨[first, second], dirs⟩ b)
    (ha' : RuleWatcher.isRelevant last ⟨[first, second], dirs⟩ a) :
    ∃ t, Steps Step (registered ⟨[first, second], dirs⟩ disk store)
      (editedWhileRead a b between last) t ∧ t.Idle ∧ t.disk = last := by
  have hrun : Steps Step (registered ⟨[first, second], dirs⟩ disk store)
      (editedWhileRead a b between last) _ :=
    .cons (.edit _ hb) <| .cons (.take_relevant _ rfl rfl hb') <|
      .cons (.read _ rfl (List.cons_ne_nil _ _)) <| .cons (.edit _ ha) <|
      .cons (.read _ rfl (List.cons_ne_nil _ _)) <| .cons (.send _ rfl rfl) <|
      .cons (.publish _ rfl) <| .cons (.take_relevant _ rfl rfl ha') <|
      .cons (.read _ rfl (List.cons_ne_nil _ _)) <| .cons (.read _ rfl (List.cons_ne_nil _ _)) <|
      .cons (.send _ rfl rfl) <| .cons (.publish _ rfl) <| .nil _
  exact ⟨_, hrun, ⟨rfl, rfl, rfl⟩, rfl⟩

/-- Two rule files. -/
def twoFiles : Disk :=
  ((Disk.empty ["srv"]).write "a.conf" (Utf8.encode "rewrite ^ /a")).write "b.conf"
    (Utf8.encode "rewrite ^ /b")

/-- A watcher for them. -/
def twoWatched : RuleWatcher := ⟨["a.conf", "b.conf"], [[.current]]⟩

/-- The second file is written again. -/
def secondWritten : Disk := twoFiles.write "b.conf" (Utf8.encode "rewrite ^ /c")

/-- Then the first file is removed. -/
def firstRemoved : Disk := secondWritten.remove "a.conf"

/-- The first file is removed while the watcher reads the files for the change of the second. -/
def removedWhileRead : List Move :=
  editedWhileRead ["srv", "a.conf"] ["srv", "b.conf"] secondWritten firstRemoved

/-- The disks that there are in this run. -/
theorem disks_removedWhileRead :
    disks twoFiles removedWhileRead = [twoFiles, secondWritten, firstRemoved] := rfl

/-- In this run the reports of both files are relevant at any time. -/
theorem isRelevant_twoWatched : ∀ disk ∈ disks twoFiles removedWhileRead,
    ∀ l ∈ [["srv", "a.conf"], ["srv", "b.conf"]], RuleWatcher.isRelevant disk twoWatched l := by
  rw [disks_removedWhileRead]
  decide +kernel

/-- The rule files are at these two places, if they are there. -/
theorem rulePlace_twoWatched {l : Location}
    (hl : RulePlace twoWatched.files twoFiles removedWhileRead l) :
    l ∈ [["srv", "a.conf"], ["srv", "b.conf"]] := by
  have hall : ∀ disk ∈ disks twoFiles removedWhileRead, ∀ file ∈ twoWatched.files,
      disk.locate file = .error .notFound ∨ disk.locate file = .ok ["srv", "a.conf"] ∨
        disk.locate file = .ok ["srv", "b.conf"] := by
    rw [disks_removedWhileRead]
    decide +kernel
  obtain ⟨disk, hdisk, file, hfile, hlocate⟩ := hl
  have hplace := hall disk hdisk file hfile
  rw [hlocate] at hplace
  simpa using hplace

/-- A rule file is changed and another one removed while the watcher is at work, and in the end the
rules in force are those of the file that is left. -/
theorem idle_is_current_edited_while_read :
    ∃ t, Steps Step (registered twoWatched twoFiles (.fixed [])) removedWhileRead t ∧ t.Idle ∧
      t.disk = firstRemoved ∧ t.published = .load firstRemoved twoWatched.files ∧
      (RuleSet.load firstRemoved twoWatched.files).map Rule.target = ["/c"] := by
  have hsecond : Disk.FileChange ["srv", "b.conf"] twoFiles secondWritten :=
    Disk.fileChange_write _ (by decide +kernel) (by rfl) (by decide +kernel)
  have hfirst : Disk.FileChange ["srv", "a.conf"] secondWritten firstRemoved :=
    Disk.fileChange_remove (Utf8.encode "rewrite ^ /a") (by rfl) (by decide +kernel)
  have hmem : ∀ disk ∈ [twoFiles, secondWritten, firstRemoved],
      disk ∈ disks twoFiles removedWhileRead := fun disk => id
  obtain ⟨t, hrun, hidle, hdisk⟩ := steps_editedWhileRead (.fixed []) hsecond hfirst
    (isRelevant_twoWatched _ (hmem _ (by simp)) _ (by simp))
    (isRelevant_twoWatched _ (hmem _ (by simp)) _ (by simp))
  have hrecognised : Recognised (RulePlace twoWatched.files twoFiles removedWhileRead)
      (registered twoWatched twoFiles (.fixed [])) removedWhileRead :=
    recognised_of_disks fun l hl disk hdisk =>
      isRelevant_twoWatched disk hdisk l (rulePlace_twoWatched hl)
  have hplace : RulePlace twoWatched.files twoFiles removedWhileRead ["srv", "b.conf"] :=
    ⟨twoFiles, hmem _ (by simp), "b.conf", List.mem_cons_of_mem _ List.mem_cons_self, by rfl⟩
  have hcurrent := idle_is_current hrun hrecognised ⟨_, _, List.mem_cons_self, hplace⟩ hidle
  refine ⟨t, hrun, hidle, hdisk, ?_, by decide +kernel⟩
  rw [← hdisk]
  exact hcurrent.1

end PagePreview.LiveRules
