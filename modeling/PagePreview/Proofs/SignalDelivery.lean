import Mathlib.Data.Set.Card
import PagePreview.Server.Shutdown

/-!
# Every signal is accounted for

However listeners come and go, look for the signal and miss it: of the signals that were sent since
a listener began to listen, each was found, or was reported as missed, or can still be found. A
listener that looks finds nothing only if it has seen everything. So the signal to stop reaches
everybody who listens when it is sent, at the latest when the listener looks for the next time, and
nobody who begins to listen later.
-/

namespace PagePreview

/-- How many signals a listener is told that it missed. -/
def Received.missed : Received → Nat
  | .signalled => 0
  | .empty => 0
  | .lagged missed => missed

namespace Shutdown

variable {s : Shutdown} {name : String}

/-! ## Who listens -/

/-- Nobody takes the name over, and its listener does not go away. -/
def Stays (name : String) (actions : List SignalAction) : Prop :=
  .subscribe name ∉ actions ∧ .drop name ∉ actions

/-- Somebody has begun to listen under the name and has not gone away since. -/
def Listening (name : String) (actions : List SignalAction) : Prop :=
  ∃ before since, actions = before ++ .subscribe name :: since ∧ Stays name since

/-- One action more: the name is taken, or it was and its listener does not go away. -/
theorem listening_concat {actions : List SignalAction} {a : SignalAction} :
    Listening name (actions ++ [a]) ↔
      a = .subscribe name ∨ (Listening name actions ∧ a ≠ .drop name) := by
  constructor
  · rintro ⟨before, since, hsplit, hstays⟩
    rcases List.eq_nil_or_concat since with rfl | ⟨since, b, rfl⟩
    · left
      exact (List.append_inj' hsplit rfl).2 |> List.head_eq_of_cons_eq
    · rw [List.concat_eq_append, ← List.cons_append, ← List.append_assoc] at hsplit
      obtain ⟨hactions, hlast⟩ := List.append_inj' hsplit rfl
      have hab : a = b := List.head_eq_of_cons_eq hlast
      simp only [Stays, List.concat_eq_append, List.mem_append, List.mem_singleton,
        not_or] at hstays
      right
      refine ⟨⟨before, since, hactions, hstays.1.1, hstays.2.1⟩, ?_⟩
      rw [hab]
      exact fun hdrop => hstays.2.2 hdrop.symm
  · rintro (rfl | ⟨⟨before, since, rfl, hstays⟩, hdrop⟩)
    · exact ⟨actions, [], rfl, List.not_mem_nil, List.not_mem_nil⟩
    · by_cases hsubscribe : a = .subscribe name
      · subst hsubscribe
        exact ⟨before ++ .subscribe name :: since, [], rfl, List.not_mem_nil, List.not_mem_nil⟩
      · refine ⟨before, since ++ [a], by simp, ?_⟩
        simp only [Stays, List.mem_append, List.mem_singleton, not_or]
        exact ⟨⟨hstays.1, Ne.symm hsubscribe⟩, hstays.2, Ne.symm hdrop⟩

/-- The place of the listener of a name: the signal that it expects next. -/
def place? (name : String) (s : Shutdown) : Option Nat :=
  (s.listeners.find? (·.name == name)).map Listener.next

/-- A listener that goes away takes no other one with it. -/
theorem place?_unsubscribe (other : String) :
    (s.unsubscribe other).place? name = if name = other then none else s.place? name := by
  simp only [place?, unsubscribe, List.find?_filter]
  by_cases hsame : name = other
  · subst hsame
    simp
  · rw [if_neg hsame]
    congr 2
    funext l
    by_cases hl : l.name = name <;> simp [hl, hsame]

/-- Whoever begins to listen expects the signals to come. -/
theorem place?_subscribe (other : String) :
    (s.subscribe other).place? name = if name = other then some s.sent else s.place? name := by
  have hrest : (s.unsubscribe other).place? name =
      if name = other then none else s.place? name := place?_unsubscribe other
  unfold place? at hrest ⊢
  unfold subscribe
  dsimp only
  rw [List.find?_cons]
  by_cases hsame : name = other
  · subst hsame
    simp
  · rw [if_neg hsame] at hrest ⊢
    have hne : (other == name) = false := by simp [Ne.symm hsame]
    simp only [hne]
    exact hrest

/-- A signal changes nothing about who listens. -/
theorem listeners_trigger : s.trigger.listeners = s.listeners := by
  unfold trigger
  split <;> rfl

/-- Nor does it change what a listener expects next. -/
theorem place?_trigger : s.trigger.place? name = s.place? name := by
  rw [place?, listeners_trigger]
  rfl

/-- Where nobody listens, nothing is found. -/
theorem receive?_of_absent (h : s.listeners.find? (·.name == name) = none) :
    s.receive? name = (none, s) := by
  unfold receive?
  rw [h]

/-- A listener that looks finds what its place says, and moves on. -/
theorem receive?_of_present {l : Listener} (h : s.listeners.find? (·.name == name) = some l) :
    s.receive? name = (some (receiveAt s.sent l.next).1,
      { s with listeners := s.listeners.map fun m =>
          if m.name = name then { m with next := (receiveAt s.sent l.next).2 } else m }) := by
  unfold receive?
  rw [h]

/-- What is found depends on how many signals were sent, and on the place of the listener. -/
theorem receive?_fst :
    (s.receive? name).1 = (s.place? name).map fun next => (receiveAt s.sent next).1 := by
  unfold place?
  cases hfind : s.listeners.find? (·.name == name) with
  | none => rw [receive?_of_absent hfind]; rfl
  | some l => rw [receive?_of_present hfind]; rfl

/-- A listener that looks moves on, and all others stay where they are. -/
theorem place?_receive? (other : String) :
    (s.receive? other).2.place? name =
      if name = other then (s.place? name).map fun next => (receiveAt s.sent next).2
      else s.place? name := by
  cases hfind : s.listeners.find? (·.name == other) with
  | none =>
    rw [receive?_of_absent hfind]
    by_cases hsame : name = other
    · rw [if_pos hsame, place?, hsame, hfind]
      rfl
    · rw [if_neg hsame]
  | some l =>
    have hname : ∀ (next : Nat) (m : Listener),
        ((if m.name = other then { m with next } else m : Listener).name == name) =
          (m.name == name) := by
      intro next m
      split <;> rfl
    rw [receive?_of_present hfind]
    unfold place?
    dsimp only
    rw [List.find?_map]
    simp only [Function.comp_def, hname, Option.map_map]
    by_cases hsame : name = other
    · subst hsame
      have hl : l.name = name := by simpa using List.find?_some hfind
      simp [hfind, hl]
    · rw [if_neg hsame]
      cases hplace : s.listeners.find? (·.name == name) with
      | none => rfl
      | some m =>
        have hm : m.name = name := by simpa using List.find?_some hplace
        have hne : m.name ≠ other := hm ▸ hsame
        simp [hne]

/-- Looking sends no signal. -/
theorem sent_receive? (other : String) : (s.receive? other).2.sent = s.sent := by
  unfold receive?
  split <;> rfl

/-- Looking changes nothing about who listens. -/
theorem names_receive? (other : String) :
    (s.receive? other).2.listeners.map Listener.name = s.listeners.map Listener.name := by
  unfold receive?
  split
  · rfl
  · dsimp only
    rw [List.map_map]
    refine List.map_congr_left fun l _ => ?_
    dsimp only [Function.comp_apply]
    split <;> rfl

/-- An action takes the place of a name away only when its listener goes away. -/
theorem isSome_place?_act (a : SignalAction) :
    ((s.act a).place? name).isSome ↔
      a = .subscribe name ∨ ((s.place? name).isSome ∧ a ≠ .drop name) := by
  cases a with
  | subscribe other =>
    rw [act, place?_subscribe]
    by_cases hsame : name = other
    · simp [hsame]
    · simp [hsame, Ne.symm hsame]
  | drop other =>
    rw [act, place?_unsubscribe]
    by_cases hsame : name = other
    · simp [hsame]
    · simp [hsame, Ne.symm hsame]
  | receive other =>
    rw [act, place?_receive?]
    by_cases hsame : name = other <;> simp [hsame]
  | trigger =>
    rw [act, place?_trigger]
    simp

/-- The last of several actions is done after the others. -/
theorem after_concat (actions : List SignalAction) (a : SignalAction) :
    s.after (actions ++ [a]) = (s.after actions).act a :=
  List.foldl_concat _ _ _ _

/-- A name has a place exactly while somebody listens under it. -/
theorem isSome_place?_iff (actions : List SignalAction) :
    ((initial.after actions).place? name).isSome ↔ Listening name actions := by
  induction actions using List.reverseRecOn with
  | nil =>
    constructor
    · intro h
      simp [after, initial, place?] at h
    · rintro ⟨before, since, hsplit, -⟩
      simp at hsplit
  | append_singleton actions a ih =>
    rw [after_concat, isSome_place?_act, listening_concat, ih]

/-! ## How many listen -/

/-- No two listeners have the same name. -/
def Distinct (s : Shutdown) : Prop := (s.listeners.map Listener.name).Nodup

/-- The names of the listeners are those that have a place. -/
theorem mem_names : name ∈ s.listeners.map Listener.name ↔ (s.place? name).isSome := by
  simp [place?, List.find?_isSome]

/-- No action gives two listeners the same name. -/
theorem Distinct.act (h : s.Distinct) (a : SignalAction) : (s.act a).Distinct := by
  have hrest : ∀ other, (s.unsubscribe other).Distinct := fun other =>
    h.sublist (List.filter_sublist.map Listener.name)
  cases a with
  | subscribe other =>
    refine List.nodup_cons.mpr ⟨?_, hrest other⟩
    rw [mem_names, place?_unsubscribe]
    simp
  | drop other => exact hrest other
  | receive other =>
    rw [Shutdown.act, Distinct, names_receive?]
    exact h
  | trigger =>
    rw [Shutdown.act, Distinct, listeners_trigger]
    exact h

/-- So no run does. -/
theorem distinct_after (actions : List SignalAction) : (initial.after actions).Distinct := by
  induction actions using List.reverseRecOn with
  | nil => exact List.nodup_nil
  | append_singleton actions a ih =>
    rw [after_concat]
    exact ih.act a

/-- The number of listeners is that of the names that somebody listens under. -/
theorem listenerCount_after (actions : List SignalAction) :
    (initial.after actions).listenerCount = {name | Listening name actions}.ncard := by
  have hset : {name | Listening name actions} =
      ↑((initial.after actions).listeners.map Listener.name).toFinset := by
    ext name
    rw [Finset.mem_coe, List.mem_toFinset, mem_names, isSome_place?_iff]
    rfl
  rw [hset, Set.ncard_coe_finset, List.toFinset_card_of_nodup (distinct_after actions),
    List.length_map]
  rfl

/-! ## What is left to find -/

/-- How many of the signals that were sent the listener of a name has not read. -/
def unreadBy (name : String) (s : Shutdown) : Nat :=
  match s.place? name with
  | some next => s.sent - next
  | none => 0

/-- Somebody listens under the name, and has not read this many signals. -/
def Unread (name : String) (unread : Nat) (s : Shutdown) : Prop :=
  ∃ next, s.place? name = some next ∧ s.sent = next + unread

/-- What a listener finds to whom this many signals were sent, and how many of them are left. -/
def settle : Nat → Received × Nat
  | 0 => (.empty, 0)
  | 1 => (.signalled, 0)
  | missed + 2 => (.lagged (missed + 1), 1)

/-- What is found and what is expected then depend on the number of signals not read. -/
theorem receiveAt_add (next unread : Nat) :
    receiveAt (next + unread) next = ((settle unread).1, next + unread - (settle unread).2) := by
  match unread with
  | 0 => simp [receiveAt, settle]
  | 1 => simp [receiveAt, settle]
  | missed + 2 =>
    have hmore : ¬ next + (missed + 2) ≤ next := by omega
    have htwo : next + 1 < next + (missed + 2) := by omega
    have hmissed : next + (missed + 2) - 1 - next = missed + 1 := by omega
    simp only [receiveAt, settle, if_neg hmore, if_pos htwo, hmissed]

/-- No more is left than there was. -/
theorem settle_snd_le (unread : Nat) : (settle unread).2 ≤ unread := by
  match unread with
  | 0 | 1 | missed + 2 => simp [settle]

/-- What is found, what is reported as missed and what is left make up what was sent. -/
theorem settle_balance (unread : Nat) :
    [(settle unread).1].count .signalled + (settle unread).1.missed + (settle unread).2 =
      unread := by
  match unread with
  | 0 | 1 => rfl
  | missed + 2 => simp [settle, Received.missed]

/-- Whoever begins to listen has read everything. -/
theorem unread_subscribe (s : Shutdown) (name : String) : Unread name 0 (s.subscribe name) :=
  ⟨s.sent, by rw [place?_subscribe, if_pos rfl], rfl⟩

namespace Unread

variable {unread : Nat}

/-- The number of signals not read is told by the place. -/
theorem unreadBy_eq (h : Unread name unread s) : s.unreadBy name = unread := by
  obtain ⟨next, hplace, hsent⟩ := h
  unfold unreadBy
  rw [hplace]
  dsimp only
  omega

/-- A listener finds what the number of signals not read says. -/
theorem receive?_fst (h : Unread name unread s) :
    (s.receive? name).1 = some (settle unread).1 := by
  obtain ⟨next, hplace, hsent⟩ := h
  rw [Shutdown.receive?_fst, hplace, hsent, Option.map_some, receiveAt_add]

/-- The listener looks: what it finds settles a part of what was sent to it. -/
theorem receive (h : Unread name unread s) :
    Unread name (settle unread).2 (s.receive? name).2 := by
  obtain ⟨next, hplace, hsent⟩ := h
  have hle := settle_snd_le unread
  refine ⟨next + unread - (settle unread).2, ?_, ?_⟩
  · rw [place?_receive?, if_pos rfl, hplace, hsent, Option.map_some, receiveAt_add]
  · rw [sent_receive?, hsent]
    omega

/-- A signal is one more that is not read. -/
theorem trigger (h : Unread name unread s) : Unread name (unread + 1) s.trigger := by
  obtain ⟨next, hplace, hsent⟩ := h
  have hsome : s.listeners.isEmpty = false := by
    cases hlisteners : s.listeners with
    | nil => simp [place?, hlisteners] at hplace
    | cons l rest => rfl
  refine ⟨next, by rw [place?_trigger, hplace], ?_⟩
  simp only [Shutdown.trigger, hsome, Bool.false_eq_true, if_false, hsent]
  omega

/-- What others do leaves what a listener can find. -/
theorem act_other {a : SignalAction} (h : Unread name unread s) (hsubscribe : a ≠ .subscribe name)
    (hdrop : a ≠ .drop name) (hreceive : a ≠ .receive name) (htrigger : a ≠ .trigger) :
    Unread name unread (s.act a) := by
  obtain ⟨next, hplace, hsent⟩ := h
  cases a with
  | subscribe other =>
    have hother : name ≠ other := fun hsame => hsubscribe (hsame ▸ rfl)
    exact ⟨next, by rw [act, place?_subscribe, if_neg hother, hplace], hsent⟩
  | drop other =>
    have hother : name ≠ other := fun hsame => hdrop (hsame ▸ rfl)
    exact ⟨next, by rw [act, place?_unsubscribe, if_neg hother, hplace], hsent⟩
  | receive other =>
    have hother : name ≠ other := fun hsame => hreceive (hsame ▸ rfl)
    exact ⟨next, by rw [act, place?_receive?, if_neg hother, hplace],
      by rw [act, sent_receive?, hsent]⟩
  | trigger => exact absurd rfl htrigger

end Unread

/-! ## The account of a run -/

/-- How many signals are seen in what a listener finds, or reported there as missed. -/
def accounted (answers : List Received) : Nat :=
  answers.count .signalled + (answers.map Received.missed).sum

/-- The account of two runs is the sum of theirs. -/
theorem accounted_append (first second : List Received) :
    accounted (first ++ second) = accounted first + accounted second := by
  simp only [accounted, List.count_append, List.map_append, List.sum_append]
  omega

/-- Of two runs the second begins where the first ends. -/
theorem after_append (s : Shutdown) (first second : List SignalAction) :
    s.after (first ++ second) = (s.after first).after second :=
  List.foldl_append

/-- Who does not look finds nothing. -/
theorem found_nil_of_not_receive {actions : List SignalAction} (h : .receive name ∉ actions) :
    found name s actions = [] := by
  induction actions generalizing s with
  | nil => rfl
  | cons a actions ih =>
    rw [List.mem_cons, not_or] at h
    rw [found, if_neg (Ne.symm h.1), ih h.2]
    rfl

/-- A name is kept in two runs if it is kept in each. -/
theorem Stays.append {first second : List SignalAction} :
    Stays name (first ++ second) ↔ Stays name first ∧ Stays name second := by
  simp only [Stays, List.mem_append, not_or]
  tauto

/-- One action: what was left and what is sent now was accounted for in it, or is left. -/
theorem Unread.act {unread : Nat} {a : SignalAction} (h : Unread name unread s)
    (hstays : Stays name [a]) :
    ∃ rest, Unread name rest (s.act a) ∧
      unread + [a].count .trigger = accounted (found name s [a]) + rest := by
  simp only [Stays, List.mem_singleton] at hstays
  by_cases hreceive : a = .receive name
  · subst hreceive
    refine ⟨(settle unread).2, h.receive, ?_⟩
    have hbalance := settle_balance unread
    simp only [found, if_true, h.receive?_fst, Option.toList_some, List.append_nil, accounted,
      List.map_cons, List.map_nil, List.sum_cons, List.sum_nil]
    rw [List.count_eq_zero_of_not_mem (by simp)]
    omega
  · rw [found_nil_of_not_receive (by simpa using Ne.symm hreceive)]
    by_cases htrigger : a = .trigger
    · subst htrigger
      exact ⟨unread + 1, h.trigger, by simp [accounted]⟩
    · refine ⟨unread, h.act_other (Ne.symm hstays.1) (Ne.symm hstays.2) hreceive htrigger, ?_⟩
      rw [List.count_eq_zero_of_not_mem (by simpa using Ne.symm htrigger)]
      simp [accounted]

/-- What is found in two runs is what is found in each. -/
theorem found_append (first second : List SignalAction) :
    found name s (first ++ second) =
      found name s first ++ found name (s.after first) second := by
  induction first generalizing s with
  | nil => rfl
  | cons a first ih =>
    rw [List.cons_append, found, found, ih, List.append_assoc]
    rfl

/-- A run: what was left before it and what is sent in it is accounted for in it, or is left. -/
theorem Unread.after {unread : Nat} (h : Unread name unread s) {actions : List SignalAction}
    (hstays : Stays name actions) :
    ∃ rest, Unread name rest (s.after actions) ∧
      unread + actions.count .trigger = accounted (found name s actions) + rest := by
  induction actions using List.reverseRecOn with
  | nil => exact ⟨unread, h, by simp [found, accounted]⟩
  | append_singleton actions a ih =>
    obtain ⟨hbefore, hlast⟩ := Stays.append.mp hstays
    obtain ⟨left, hleft, hsum⟩ := ih hbefore
    obtain ⟨rest, hrest, hstep⟩ := hleft.act hlast
    refine ⟨rest, by rw [after_concat]; exact hrest, ?_⟩
    rw [List.count_append, found_append, accounted_append]
    omega

/-- What was left when a signal was sent is still left, and the signal with it, until the listener
looks. -/
theorem Unread.pos_of_trigger {left : Nat} {late : List SignalAction} (h : Unread name left s)
    (hstays : Stays name (.trigger :: late)) (hlate : .receive name ∉ late) :
    0 < (s.after (.trigger :: late)).unreadBy name := by
  obtain ⟨rest, hrest, hsum⟩ := h.after hstays
  have hfound : found name s (.trigger :: late) = [] := by
    refine found_nil_of_not_receive ?_
    simpa using hlate
  have hnone : accounted [] = 0 := rfl
  rw [hfound, hnone, List.count_cons_self] at hsum
  rw [hrest.unreadBy_eq]
  omega

/-- Nothing is found exactly if everything was read. -/
theorem settle_fst_eq_empty {unread : Nat} : (settle unread).1 = .empty ↔ unread = 0 := by
  match unread with
  | 0 | 1 | missed + 2 => simp [settle]

/-- A signal is found exactly if it is the only one that was not read. -/
theorem settle_fst_eq_signalled {unread : Nat} :
    (settle unread).1 = .signalled ↔ unread = 1 := by
  match unread with
  | 0 | 1 | missed + 2 => simp [settle]

/-- Signals are reported as missed exactly if one more was not read. -/
theorem settle_fst_eq_lagged {unread missed : Nat} :
    (settle unread).1 = .lagged missed ↔ 1 ≤ missed ∧ unread = missed + 1 := by
  match unread with
  | 0 => simp [settle]
  | 1 =>
    simp only [settle, reduceCtorEq, false_iff, not_and]
    omega
  | more + 2 =>
    simp only [settle, Received.lagged.injEq]
    omega

/-- Whoever listens under a name, however it came to that and whatever is done since: the signals
sent since it began to listen are the ones that it found, the ones that it was told it missed, and
the ones it has not read. What it finds next says how many those are: nothing if there is none, a
signal if there is one, and of more that all but one were missed, and then the one. So a signal that
was sent is found when the listener looks next, and one that was sent before it began to listen is
not. The listeners that are counted are those that have begun to listen and not gone away, and
nobody else finds anything. -/
theorem every_signal_is_accounted_for (before since : List SignalAction) (name : String)
    (stays : Stays name since) :
    let joined := initial.after (before ++ [.subscribe name])
    let now := joined.after since
    since.count .trigger =
      (found name joined since).count .signalled +
        ((found name joined since).map Received.missed).sum + now.unreadBy name ∧
    ((now.receive? name).1 = some .empty ↔ now.unreadBy name = 0) ∧
    ((now.receive? name).1 = some .signalled ↔ now.unreadBy name = 1) ∧
    (∀ missed, (now.receive? name).1 = some (.lagged missed) ↔
      1 ≤ missed ∧ now.unreadBy name = missed + 1) ∧
    (∀ missed, (now.receive? name).1 = some (.lagged missed) →
      (now.receive? name).2.unreadBy name = 1 ∧
        ((now.receive? name).2.receive? name).1 = some .signalled) ∧
    (∀ early late, since = early ++ .trigger :: late → .receive name ∉ late →
      ∃ answer, (now.receive? name).1 = some answer ∧ answer ≠ .empty) ∧
    (.trigger ∉ since → (now.receive? name).1 = some .empty) ∧
    (∀ actions, (initial.after actions).listenerCount = {other | Listening other actions}.ncard) ∧
    (∀ actions other,
      ((initial.after actions).receive? other).1.isSome ↔ Listening other actions) := by
  intro joined now
  have hjoined : Unread name 0 joined := by
    dsimp only [joined]
    rw [after_concat]
    exact unread_subscribe _ _
  obtain ⟨unread, hunread, hsum⟩ := hjoined.after stays
  have hanswer : (now.receive? name).1 = some (settle unread).1 := hunread.receive?_fst
  have hleft : now.unreadBy name = unread := hunread.unreadBy_eq
  rw [accounted, Nat.zero_add] at hsum
  rw [hanswer, hleft]
  refine ⟨hsum, Option.some_inj.trans settle_fst_eq_empty,
    Option.some_inj.trans settle_fst_eq_signalled,
    fun _ => Option.some_inj.trans settle_fst_eq_lagged, ?_, ?_, ?_, listenerCount_after, ?_⟩
  · intro missed hlagged
    obtain ⟨hmissed, rfl⟩ := settle_fst_eq_lagged.mp (Option.some_inj.mp hlagged)
    obtain ⟨more, rfl⟩ : ∃ more, missed = more + 1 := ⟨missed - 1, by omega⟩
    have hone : Unread name 1 (now.receive? name).2 := hunread.receive
    exact ⟨hone.unreadBy_eq, hone.receive?_fst⟩
  · rintro early late rfl hlate
    rw [Stays.append] at stays
    obtain ⟨left, hkept, -⟩ := hjoined.after stays.1
    have hpos := hkept.pos_of_trigger stays.2 hlate
    rw [← after_append] at hpos
    have hsome : 0 < unread := hpos.trans_eq hleft
    refine ⟨_, rfl, ?_⟩
    rw [Ne, settle_fst_eq_empty]
    omega
  · intro hquiet
    have hzero : since.count .trigger = 0 := List.count_eq_zero_of_not_mem hquiet
    rw [Option.some_inj, settle_fst_eq_empty]
    omega
  · intro actions other
    rw [receive?_fst, Option.isSome_map, isSome_place?_iff]

/-- The signal is sent once before the server listens and twice while it does, with the watcher of
the rules looking in between: the server is told that it missed one, and finds the other. -/
theorem every_signal_is_accounted_for_sent_twice :
    let joined := initial.after [.subscribe "rules", .trigger, .subscribe "server"]
    let now := joined.after [.trigger, .receive "rules", .trigger]
    Stays "server" [.trigger, .receive "rules", .trigger] ∧
    (now.receive? "server").1 = some (.lagged 1) ∧
    ((now.receive? "server").2.receive? "server").1 = some .signalled := by
  intro joined now
  have hstays : Stays "server" [.trigger, .receive "rules", .trigger] := ⟨by decide, by decide⟩
  obtain ⟨hsum, -, -, hlagged, hnext, -⟩ :=
    every_signal_is_accounted_for [.subscribe "rules", .trigger]
      [.trigger, .receive "rules", .trigger] "server" hstays
  have htwo : now.unreadBy "server" = 1 + 1 := by
    have hfound : found "server" joined [.trigger, .receive "rules", .trigger] = [] := rfl
    have hcount : [SignalAction.trigger, .receive "rules", .trigger].count .trigger = 2 := by decide
    dsimp only [List.cons_append, List.nil_append] at hsum
    rw [hfound, hcount] at hsum
    simpa using hsum.symm
  have hanswer := (hlagged 1).mpr ⟨le_refl 1, htwo⟩
  exact ⟨hstays, hanswer, (hnext 1 hanswer).2⟩

end Shutdown

end PagePreview
