import PagePreview.Proofs.SignalDelivery
import PagePreview.Rule.UpdateChannel

/-!
# Sets are published in order

However the watcher, the loop and the signal to stop follow one another, the sets that are published
are the first of those that were sent, each once and in order. A set that is sent is lost only when
the loop is told to stop. If it never is, the loop ends when the channel is closed, after it has
published everything. And when it has ended, nothing is published any more.
-/

namespace PagePreview.UpdateChannel

/-- The set that is sent. -/
def Move.sent? : Move → Option RuleSet
  | .send rules => some rules
  | .close => none
  | .signal _ => none
  | .abandon => none
  | .publish _ => none
  | .finish => none
  | .quit => none

/-- The set that is published. -/
def Move.published? : Move → Option RuleSet
  | .send _ => none
  | .close => none
  | .signal _ => none
  | .abandon => none
  | .publish rules => some rules
  | .finish => none
  | .quit => none

/-- The sets that are sent, in order. -/
def sent (moves : List Move) : List RuleSet := moves.filterMap Move.sent?

/-- The sets that are published, in order. -/
def published (moves : List Move) : List RuleSet := moves.filterMap Move.published?

/-- Nobody sends the signal to stop, and somebody could. -/
def Undisturbed (moves : List Move) : Prop := .signal .trigger ∉ moves ∧ .abandon ∉ moves

/-- The loop has not been told to stop, and can only be told by a signal that is still to come. -/
def Untold (s : UpdateChannel) : Prop :=
  s.abandoned = false ∧ (s.loop.running = true → s.shutdown.Unread s.name 0)

/-- How many steps the loop can take at most once the channel is closed. -/
def stepsLeft (s : UpdateChannel) : Nat := if s.loop.running then s.sets.length + 1 else 0

variable {s t : UpdateChannel} {move : Move} {moves : List Move}

/-- The set of the first move comes before those that are sent later. -/
theorem sent_cons (move : Move) (moves : List Move) :
    sent (move :: moves) = move.sent?.toList ++ sent moves := by
  unfold sent
  cases move <;> rfl

/-- The set of the first move comes before those that are published later. -/
theorem published_cons (move : Move) (moves : List Move) :
    published (move :: moves) = move.published?.toList ++ published moves := by
  unfold published
  cases move <;> rfl

/-! ## The loop -/

/-- A loop that runs puts the set into the store. -/
theorem step_update {loop : UpdateLoop} (h : loop.running = true) (rules : RuleSet) :
    loop.step (.update rules) = { loop with store := loop.store.replace rules } := by
  unfold UpdateLoop.step
  rw [if_pos h]

/-- A loop that finds the channel closed ends, and leaves the store as it is. -/
theorem loop_ended_closed (running : s.loop.running = true) :
    (s.ended .closed).loop = { s.loop with running := false } := by
  unfold UpdateChannel.ended UpdateLoop.step
  rw [if_pos running]

/-- A loop that is told to stop ends, and leaves the store as it is. -/
theorem loop_ended_shutdown (running : s.loop.running = true) :
    (s.ended .shutdown).loop = { s.loop with running := false } := by
  unfold UpdateChannel.ended UpdateLoop.step
  rw [if_pos running]

/-! ## One step -/

/-- What a step does to the store: it publishes its set, if it has one. -/
theorem Step.store (h : Step s move t) : t.loop.store =
    { s.loop.store with published := move.published?.getD s.loop.store.published } := by
  cases h with
  | send isOpen => split <;> rfl
  | close => rfl
  | signal others sender => rfl
  | abandon => rfl
  | publish running oldest =>
    dsimp only
    rw [step_update running]
    rfl
  | finish running closed nothing =>
    rw [loop_ended_closed running]
    rfl
  | quit running told =>
    rw [loop_ended_shutdown running]
    rfl

/-- A step that publishes a set does not end the loop. -/
theorem Step.published?_of_ended (h : Step s move t) (ht : t.loop.running = false) :
    move.published? = none := by
  cases h with
  | send isOpen => rfl
  | close => rfl
  | signal others sender => rfl
  | abandon => rfl
  | publish running oldest =>
    dsimp only at ht
    rw [step_update running] at ht
    cases running.symm.trans ht
  | finish running closed nothing => rfl
  | quit running told => rfl

/-- A loop that has ended does not begin again. -/
theorem Step.stays_ended (h : Step s move t) (hs : s.loop.running = false) :
    t.loop.running = false := by
  cases h with
  | send isOpen => split <;> exact hs
  | close => exact hs
  | signal others sender => exact hs
  | abandon => exact hs
  | publish running oldest => cases hs.symm.trans running
  | finish running closed nothing => cases hs.symm.trans running
  | quit running told => cases hs.symm.trans running

/-- A loop that runs ran before. -/
theorem Step.running_before (h : Step s move t) (ht : t.loop.running = true) :
    s.loop.running = true := by
  cases hs : s.loop.running with
  | true => rfl
  | false => cases (h.stays_ended hs).symm.trans ht

/-- A channel that is closed stays closed. -/
theorem Step.stays_closed (h : Step s move t) (hs : s.closed = true) : t.closed = true := by
  cases h with
  | send isOpen => cases hs.symm.trans isOpen
  | close => rfl
  | signal others sender => exact hs
  | abandon => exact hs
  | publish running oldest => exact hs
  | finish running closed nothing => exact hs
  | quit running told => exact hs

/-- While the loop runs, what waits and what is sent is published or waits. -/
theorem Step.balance (h : Step s move t) (hs : s.loop.running = true)
    (ht : t.loop.running = true) :
    s.sets ++ move.sent?.toList = move.published?.toList ++ t.sets := by
  cases h with
  | send isOpen =>
    rw [if_pos hs]
    rfl
  | close => exact List.append_nil _
  | signal others sender => exact List.append_nil _
  | abandon => exact List.append_nil _
  | publish running oldest =>
    rw [oldest]
    exact List.append_nil _
  | finish running closed nothing =>
    rw [loop_ended_closed running] at ht
    cases ht
  | quit running told =>
    rw [loop_ended_shutdown running] at ht
    cases ht

/-- The step with which the loop ends publishes nothing. It is the last of its steps, and either
nothing is left in the channel, which is closed, or the loop was told to stop. -/
theorem Step.last (h : Step s move t) (hs : s.loop.running = true) (ht : t.loop.running = false) :
    (move = .finish ∧ s.closed = true ∧ s.sets = []) ∨ (move = .quit ∧ s.Told) := by
  cases h with
  | send isOpen =>
    rw [if_pos hs] at ht
    cases hs.symm.trans ht
  | close => cases hs.symm.trans ht
  | signal others sender => cases hs.symm.trans ht
  | abandon => cases hs.symm.trans ht
  | publish running oldest =>
    dsimp only at ht
    rw [step_update running] at ht
    cases hs.symm.trans ht
  | finish running closed nothing => exact .inl ⟨rfl, closed, nothing⟩
  | quit running told => exact .inr ⟨rfl, told⟩

/-- Once the channel is closed, every step of the loop brings it nearer to its end. -/
theorem Step.fewer_stepsLeft (h : Step s move t) (hs : s.closed = true) :
    [move].countP Move.isOfLoop + t.stepsLeft ≤ s.stepsLeft := by
  unfold stepsLeft
  cases h with
  | send isOpen => cases hs.symm.trans isOpen
  | close => exact (Nat.zero_add _).le
  | signal others sender => exact (Nat.zero_add _).le
  | abandon => exact (Nat.zero_add _).le
  | @publish rules rest running oldest =>
    dsimp only
    rw [step_update running, running, oldest]
    exact (Nat.add_comm 1 (rest.length + 1)).le
  | finish running closed nothing =>
    rw [loop_ended_closed running, running]
    exact Nat.le_add_left 1 s.sets.length
  | quit running told =>
    rw [loop_ended_shutdown running, running]
    exact Nat.le_add_left 1 s.sets.length

/-- What others do with the signal tells the loop nothing, unless they send it. -/
theorem Step.untold (h : Step s move t) (hs : s.Untold) (hsignal : move ≠ .signal .trigger)
    (habandon : move ≠ .abandon) : t.Untold := by
  obtain ⟨hsender, hunread⟩ := hs
  cases h with
  | send isOpen => split <;> exact ⟨hsender, hunread⟩
  | close => exact ⟨hsender, hunread⟩
  | @signal action others sender =>
    refine ⟨hsender, fun running => (hunread running).act_other ?_ ?_ ?_ ?_⟩
    · rintro rfl
      exact others rfl
    · rintro rfl
      exact others rfl
    · rintro rfl
      exact others rfl
    · rintro rfl
      exact hsignal rfl
  | abandon => exact absurd rfl habandon
  | publish running oldest => exact ⟨hsender, fun _ => hunread running⟩
  | finish running closed nothing =>
    refine ⟨hsender, fun hrunning => ?_⟩
    rw [loop_ended_closed running] at hrunning
    cases hrunning
  | quit running told =>
    refine ⟨hsender, fun hrunning => ?_⟩
    rw [loop_ended_shutdown running] at hrunning
    cases hrunning

/-- A loop that was not told does not take itself to be. -/
theorem Untold.not_told (h : s.Untold) (running : s.loop.running = true) : ¬s.Told := by
  obtain ⟨hsender, hunread⟩ := h
  have hfound : (s.shutdown.receive? s.name).1 = some .empty := (hunread running).receive?_fst
  rintro (habandoned | hsignalled | ⟨missed, hlagged⟩)
  · cases hsender.symm.trans habandoned
  · cases hfound.symm.trans hsignalled
  · cases hfound.symm.trans hlagged

/-- A loop that begins was not told. -/
theorem untold_ofStore (store : RuleStore) (shutdown : Shutdown) (name : String) :
    (ofStore store shutdown name).Untold :=
  ⟨rfl, fun _ => Shutdown.unread_subscribe shutdown name⟩

/-- A loop that has nothing to do, and has not ended, waits for a set at the end of an empty channel
that is open. -/
theorem Rests.waits (h : s.Rests) (running : s.loop.running = true) :
    s.closed = false ∧ s.sets = [] := by
  have hnothing : s.sets = [] := by
    cases hsets : s.sets with
    | nil => rfl
    | cons rules rest => cases h _ _ (.publish s running hsets)
  refine ⟨?_, hnothing⟩
  cases hclosed : s.closed with
  | false => rfl
  | true => cases h _ _ (.finish s running hclosed hnothing)

/-! ## A run -/

/-- The store holds the set that was published last, and is otherwise as it was. -/
theorem steps_store (run : Steps Step s moves t) : t.loop.store =
    { s.loop.store with
      published := (published moves).getLastD s.loop.store.published } := by
  induction run with
  | nil s => rfl
  | @cons s m t move moves first rest ih =>
    rw [ih, first.store, published_cons]
    cases move.published? with
    | none => rfl
    | some rules => rw [Option.toList_some, List.singleton_append, List.getLastD_cons]; rfl

/-- No run begins a loop again that has ended. -/
theorem steps_ended (run : Steps Step s moves t) (hs : s.loop.running = false) :
    t.loop.running = false :=
  run.keeps (P := fun s => s.loop.running = false) (fun _ _ _ _ step hs => step.stays_ended hs) hs

/-- A loop that runs after a run was running before. -/
theorem running_before (run : Steps Step s moves t) (ht : t.loop.running = true) :
    s.loop.running = true := by
  cases hs : s.loop.running with
  | true => rfl
  | false => cases (steps_ended run hs).symm.trans ht

/-- No run opens a channel again that was closed. -/
theorem steps_closed (run : Steps Step s moves t) (hs : s.closed = true) : t.closed = true :=
  run.keeps (P := fun s => s.closed = true) (fun _ _ _ _ step hs => step.stays_closed hs) hs

/-- After the end of the loop nothing is published. -/
theorem published_of_ended (run : Steps Step s moves t) (hs : s.loop.running = false) :
    published moves = [] := by
  induction run with
  | nil s => rfl
  | cons first rest ih =>
    have hm := first.stays_ended hs
    rw [published_cons, first.published?_of_ended hm, ih hm]
    rfl

/-- Into a closed channel nothing is sent. -/
theorem sent_of_closed (run : Steps Step s moves t) (hs : s.closed = true) : sent moves = [] := by
  induction run with
  | nil s => rfl
  | @cons s m t move moves first rest ih =>
    rw [sent_cons, ih (first.stays_closed hs), List.append_nil]
    cases first with
    | send isOpen => cases hs.symm.trans isOpen
    | _ => rfl

/-- As long as the loop runs, what waited and what was sent is published, in order, or waits. -/
theorem steps_balance (run : Steps Step s moves t) (ht : t.loop.running = true) :
    s.sets ++ sent moves = published moves ++ t.sets := by
  induction run with
  | nil s => exact List.append_nil _
  | @cons s m t move moves first rest ih =>
    have hm : m.loop.running = true := running_before rest ht
    have hs : s.loop.running = true := first.running_before hm
    calc s.sets ++ sent (move :: moves)
      _ = s.sets ++ move.sent?.toList ++ sent moves := by rw [sent_cons, List.append_assoc]
      _ = move.published?.toList ++ (m.sets ++ sent moves) := by
        rw [first.balance hs hm, List.append_assoc]
      _ = published (move :: moves) ++ t.sets := by
        rw [ih ht, published_cons, List.append_assoc]

/-- What is published are the first of those that waited or were sent, in order. -/
theorem published_prefix_sent (run : Steps Step s moves t) :
    published moves <+: s.sets ++ sent moves := by
  induction run with
  | nil s => exact List.nil_prefix
  | @cons s m t move moves first rest ih =>
    cases hm : m.loop.running with
    | false =>
      rw [published_cons, first.published?_of_ended hm, published_of_ended rest hm]
      exact List.nil_prefix
    | true =>
      have hs : s.loop.running = true := first.running_before hm
      rw [sent_cons, published_cons, ← List.append_assoc, first.balance hs hm, List.append_assoc]
      exact List.prefix_append_right_inj _ |>.mpr ih

/-- A loop that ends before it is told to has published what waited and what was sent. -/
theorem published_of_not_quit (run : Steps Step s moves t) (hquit : .quit ∉ moves)
    (hs : s.loop.running = true) (ht : t.loop.running = false) :
    t.closed = true ∧ published moves = s.sets ++ sent moves := by
  induction run with
  | nil s => cases hs.symm.trans ht
  | @cons s m t move moves first rest ih =>
    obtain ⟨hmove, hrest⟩ := not_or.mp (mt List.mem_cons.mpr hquit)
    cases hm : m.loop.running with
    | true =>
      obtain ⟨hclosed, hall⟩ := ih hrest hm ht
      refine ⟨hclosed, ?_⟩
      rw [sent_cons, published_cons, hall, ← List.append_assoc, ← first.balance hs hm,
        List.append_assoc]
    | false =>
      -- The loop ends in this step: nothing is left, and nothing more can be sent.
      rcases first.last hs hm with ⟨rfl, hclosed, hnothing⟩ | ⟨rfl, -⟩
      · have hend : m.closed = true := first.stays_closed hclosed
        refine ⟨steps_closed rest hend, ?_⟩
        rw [published_cons, sent_cons, published_of_ended rest hm, sent_of_closed rest hend,
          hnothing]
        rfl
      · exact absurd rfl hmove

/-- If nobody sends the signal, the loop is not told to stop. -/
theorem not_mem_quit (run : Steps Step s moves t) (hs : s.Untold) (h : Undisturbed moves) :
    .quit ∉ moves := by
  induction run with
  | nil s => exact List.not_mem_nil
  | @cons s m t move moves first rest ih =>
    obtain ⟨hsignal, hsignals⟩ := not_or.mp (mt List.mem_cons.mpr h.1)
    obtain ⟨habandon, habandons⟩ := not_or.mp (mt List.mem_cons.mpr h.2)
    have hrest := ih (first.untold hs (Ne.symm hsignal) (Ne.symm habandon)) ⟨hsignals, habandons⟩
    refine fun hquit => (List.mem_cons.mp hquit).elim ?_ hrest
    rintro rfl
    cases first with
    | quit running told => exact hs.not_told running told

/-- From a closed channel the loop comes to its end. -/
theorem steps_stepsLeft (run : Steps Step s moves t) (hs : s.closed = true) :
    moves.countP Move.isOfLoop + t.stepsLeft ≤ s.stepsLeft := by
  induction run with
  | nil s => exact (Nat.zero_add _).le
  | @cons s m t move moves first rest ih =>
    have hfirst := first.fewer_stepsLeft hs
    have hrest := ih (first.stays_closed hs)
    have hcount : (move :: moves).countP Move.isOfLoop =
        [move].countP Move.isOfLoop + moves.countP Move.isOfLoop :=
      @List.countP_append _ Move.isOfLoop [move] moves
    omega

/-- A loop has one step for each set that is left, and one to end. -/
theorem stepsLeft_le (s : UpdateChannel) : s.stepsLeft ≤ s.sets.length + 1 := by
  unfold stepsLeft
  split
  · exact le_refl _
  · exact Nat.zero_le _

/-- However sets are sent, taken and published, the channel is closed and the signal to stop comes:
what is published are the first of the sets that were sent, each once and in order, and the store
holds the last of them, or what it held before. A loop that has nothing to do and has not ended has
published all that were sent, and the channel is open; once it is closed, the loop can take only as
many more steps as there are sets left, and one to end. So if nobody tells it to stop, it ends when
the channel is closed, has published every set, and the store holds the last one that was sent. When
it has ended, whatever happens, nothing is published and the store stays as it is. -/
theorem updates_are_published_in_order {store : RuleStore} {shutdown : Shutdown} {name : String}
    {moves : List Move} {t : UpdateChannel}
    (run : Steps Step (ofStore store shutdown name) moves t) :
    published moves <+: sent moves ∧
    t.loop.store = { store with published := (published moves).getLastD store.published } ∧
    (t.Rests → t.loop.running = true → t.closed = false ∧ published moves = sent moves) ∧
    (∀ more u, Steps Step t more u →
      t.closed = true → more.countP Move.isOfLoop ≤ t.sets.length + 1) ∧
    (Undisturbed moves → t.loop.running = false →
      t.closed = true ∧ published moves = sent moves ∧
        t.loop.store.published = (sent moves).getLastD store.published) ∧
    (∀ more u, Steps Step t more u → t.loop.running = false →
      u.loop.running = false ∧ published more = [] ∧ u.loop.store = t.loop.store) := by
  have hstore : t.loop.store =
      { store with published := (published moves).getLastD store.published } := steps_store run
  refine ⟨published_prefix_sent run, hstore, ?_, ?_, ?_, ?_⟩
  · intro hrests running
    obtain ⟨hopen, hnothing⟩ := hrests.waits running
    have hbalance := steps_balance run running
    rw [hnothing, List.append_nil] at hbalance
    exact ⟨hopen, hbalance.symm⟩
  · intro more u further hclosed
    have hleft := steps_stepsLeft further hclosed
    have hbound := t.stepsLeft_le
    omega
  · intro hundisturbed hended
    have hquit := not_mem_quit run (untold_ofStore store shutdown name) hundisturbed
    obtain ⟨hclosed, hall⟩ := published_of_not_quit run hquit rfl hended
    rw [ofStore, List.nil_append] at hall
    exact ⟨hclosed, hall, by rw [hstore, hall]⟩
  · intro more u further hended
    have hnone := published_of_ended further hended
    refine ⟨steps_ended further hended, hnone, ?_⟩
    rw [steps_store further, hnone]
    rfl

/-- Two sets are sent and the channel is closed before the loop has its turn: it publishes both, the
second one last, and ends. -/
theorem updates_are_published_in_order_closed :
    let first := RuleSet.ofSource "rewrite ^ /a"
    let second := RuleSet.ofSource "rewrite ^ /b"
    let moves := [.send first, .send second, .close, .publish first, .publish second, .finish]
    ∃ t, Steps Step (ofStore (.fixed []) .initial "rules") moves t ∧
      t.loop.running = false ∧ Undisturbed moves ∧ published moves = sent moves ∧
      t.loop.store.published = second ∧ second.map Rule.target = ["/b"] := by
  intro first second moves
  have hundisturbed : Undisturbed moves := by simp [Undisturbed, moves]
  have hrun : Steps Step (ofStore (.fixed []) .initial "rules") moves _ :=
    .cons (.send _ rfl) (.cons (.send _ rfl) (.cons (.close _) (.cons (.publish _ rfl rfl)
      (.cons (.publish _ rfl rfl) (.cons (.finish _ rfl rfl rfl) (.nil _))))))
  obtain ⟨-, -, -, -, hall, -⟩ := updates_are_published_in_order hrun
  obtain ⟨-, hpublished, hstore⟩ := hall hundisturbed rfl
  exact ⟨_, hrun, rfl, hundisturbed, hpublished, hstore, by decide +kernel⟩

end PagePreview.UpdateChannel
