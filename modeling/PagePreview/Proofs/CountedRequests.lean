import Mathlib.Algebra.BigOperators.Group.List.Basic
import Mathlib.Algebra.GroupWithZero.Nat
import Mathlib.Data.List.Nodup
import PagePreview.Proofs.EarlierRequests

/-!
# What the counters say

The counters are kept by what is noted while requests are handled. A request that a rule matches is
counted by the rule's action, once, whatever becomes of it afterwards: also if the rule's target is
of no use and the request goes on as it is. A request that is forwarded is counted by its outcome,
once, also if nothing could be sent. Nothing else raises a counter. So the counters can be told from
the requests alone, in any order, but for the outcomes, which depend on what other servers reply.
-/

namespace PagePreview

/-- The action of the rule that matches a request target. -/
def RuleSet.action? (rules : RuleSet) (target : RequestTarget) : Option Action :=
  (rules.resolveTarget target).map fun found => found.rule.action

/-- The request is forwarded. -/
def Dispatch.isProxy : Dispatch → Bool
  | .proxy _ => true
  | .passThrough => false
  | .redirect _ => false
  | .rewrite _ => false

/-- How forwarding ends with a reply, or without one since nothing was sent. -/
def Outcome.ofReply : Option (Except ProxyError Response) → Outcome
  | some (.ok _) => .ok
  | some (.error _) => .error
  | none => .error

/-! ## What is counted -/

namespace Metrics

/-- The counters differ by at most one match and one forwarded request. -/
structure Adds (action? : Option Action) (outcome? : Option Outcome) (m m' : Metrics) : Prop where
  /-- The match is counted by its action. -/
  matched : ∀ a, m'.matched a = m.matched a + if action? = some a then 1 else 0
  /-- The forwarded request is counted by its outcome. -/
  forwarded : ∀ o, m'.forwarded o = m.forwarded o + if outcome? = some o then 1 else 0
  /-- Its duration is a sample of the same outcome. -/
  samples : ∀ o, m'.samples o = m.samples o + if outcome? = some o then 1 else 0

variable {m m' m'' : Metrics} {action? : Option Action} {outcome? : Option Outcome}

/-- Nothing is counted where nothing changes. -/
theorem adds_nothing (m : Metrics) : Adds none none m m := ⟨by simp, by simp, by simp⟩

/-- A match that is recorded is counted once. -/
theorem adds_recordMatch (m : Metrics) (action : Action) :
    Adds (some action) none m (m.recordMatch action) := by
  refine ⟨fun a => ?_, by simp [recordMatch], by simp [recordMatch]⟩
  by_cases hsame : a = action
  · simp [recordMatch, hsame]
  · simp [recordMatch, hsame, Ne.symm hsame]

/-- An outcome that is recorded is counted once, with one sample. -/
theorem adds_recordForwarded (m : Metrics) (outcome : Outcome) :
    Adds none (some outcome) m (m.recordForwarded outcome) := by
  refine ⟨by simp [recordForwarded], fun o => ?_, fun o => ?_⟩
  all_goals
    by_cases hsame : o = outcome
    · simp [recordForwarded, hsame]
    · simp [recordForwarded, hsame, Ne.symm hsame]

/-- A match is counted before the request is forwarded. -/
theorem Adds.trans (h : Adds action? none m m') (h' : Adds none outcome? m' m'') :
    Adds action? outcome? m m'' := by
  refine ⟨fun a => ?_, fun o => ?_, fun o => ?_⟩
  · simpa [h.matched a] using h'.matched a
  · simpa [h.forwarded o] using h'.forwarded o
  · simpa [h.samples o] using h'.samples o

/-- What is done for a request is counted in order. -/
def recordAll (m : Metrics) (events : List Event) : Metrics := events.foldl record m

/-- The events of two runs are recorded one after the other. -/
theorem recordAll_append (m : Metrics) (first second : List Event) :
    m.recordAll (first ++ second) = (m.recordAll first).recordAll second :=
  List.foldl_append

end Metrics

/-- Nothing is counted for it. -/
def Event.Uncounted (e : Event) : Prop := ∀ m : Metrics, m.record e = m

/-- Events that do not count change nothing. -/
theorem Metrics.recordAll_of_uncounted {events : List Event} (h : ∀ e ∈ events, e.Uncounted)
    (m : Metrics) : m.recordAll events = m := by
  induction events with
  | nil => rfl
  | cons e rest ih =>
    obtain ⟨hhead, htail⟩ := List.forall_mem_cons.mp h
    have hrest := ih htail
    unfold recordAll at hrest ⊢
    rw [List.foldl_cons, hhead m, hrest]

namespace Site

open Traced

variable (site : Site) (q : Request)

/-- Nothing that the preview does counts. -/
theorem preview_uncounted : (site.preview q).All Event.Uncounted := by
  refine (preview_all site q).mono ?_
  rintro e ⟨page, -, hdoes⟩ m
  cases hdoes with
  | template ht => rfl
  | dataLooks hl => cases hl; rfl
  | dataOpened hf => rfl
  | scriptLooks hl => cases hl; rfl
  | augmented hf => rfl
  | rendered hp => rfl

/-- Nothing that the fixtures do counts. -/
theorem script_uncounted : (site.script q).All Event.Uncounted := by
  refine (script_all site q).mono ?_
  intro e hdoes m
  cases hdoes with
  | looks hf hl => cases hl; rfl
  | opened hf hk => rfl
  | scripted hf hk => rfl

/-- The stages count nothing. -/
theorem serve_uncounted : (site.serve q).All Event.Uncounted :=
  serve_all site q (preview_uncounted site q) (script_uncounted site q) fun _ => rfl

end Site

namespace Server

open Traced

/-- A match is counted once, by its action. -/
theorem adds_noteMatch (rules : RuleSet) (target : RequestTarget) (m : Metrics) :
    Metrics.Adds (rules.action? target) none m (m.recordAll (noteMatch rules target).events) := by
  unfold noteMatch RuleSet.action?
  cases rules.resolveTarget target with
  | none => exact m.adds_nothing
  | some found => exact m.adds_recordMatch found.rule.action

/-- The outcome is that of the reply to what was sent. -/
theorem succeeded_forward (network : Network) (q : Request) (target : ProxyTarget) :
    (if (q.forward network target).succeeded then Outcome.ok else .error) =
      .ofReply ((q.forward network target).sent.map network) := by
  unfold Request.forward
  cases q.prepare target with
  | error e => rfl
  | ok out =>
    obtain ⟨reply, hreply⟩ : ∃ reply, network out = reply := ⟨_, rfl⟩
    simp only [hreply]
    cases reply with
    | error e => simp [hreply, Outcome.ofReply]
    | ok answer => simp [hreply, Outcome.ofReply]

variable (disk : Disk) (s : Server)

/-- How forwarding a request ends, if the rules have it forwarded. -/
def outcome? (v : Visit) : Option Outcome :=
  if ((s.rulesOn disk).plan v.request.target).isProxy then some (.ofReply (s.reply? disk v))
  else none

/-- A request adds to the counters its match and its outcome, each once. -/
theorem adds_visit (v : Visit) (m : Metrics) :
    Metrics.Adds ((s.rulesOn disk).action? v.request.target) (s.outcome? disk v) m
      (m.recordAll (s.visit disk v).1.events) := by
  have htarget : (v.request.identify v.fresh).target = v.request.target :=
    v.request.identify_target v.fresh
  have hmatch := adds_noteMatch (s.rulesOn disk) v.request.target m
  have hreply : s.reply? disk v = ((answer v.network (s.siteOn disk) (s.rulesOn disk)
      (v.request.identify v.fresh)).events.findSome? Event.sent?).map v.network := by
    unfold reply? visit
    rw [handle_events]
  unfold visit outcome?
  rw [handle_events, answer_events, htarget, Metrics.recordAll_append]
  refine hmatch.trans ?_
  cases hplan : (s.rulesOn disk).plan v.request.target with
  | passThrough =>
    rw [Dispatch.apply, carryOut, Metrics.recordAll_of_uncounted (Site.serve_uncounted _ _)]
    exact Metrics.adds_nothing _
  | redirect location => exact Metrics.adds_nothing _
  | rewrite target =>
    rw [Dispatch.apply, carryOut, Metrics.recordAll_of_uncounted (Site.serve_uncounted _ _)]
    exact Metrics.adds_nothing _
  | proxy target =>
    rw [hreply, sent_answer_of_proxy _ _ _ (htarget ▸ hplan), ← succeeded_forward]
    exact Metrics.adds_recordForwarded _ _

/-! ## What is counted in a run -/

/-- The counters after some requests that are handled one after another. -/
def counted (s : Server) (m : Metrics) : List Visit → Metrics
  | [] => m
  | v :: rest => (s.visit disk v).2.counted (m.recordAll (s.visit disk v).1.events) rest

variable {disk s}

/-- Servers with the same rules in force come to the same outcome. -/
theorem SameInForce.outcome?_eq {t : Server} (h : SameInForce disk s t) :
    t.outcome? disk = s.outcome? disk := by
  funext v
  unfold outcome?
  rw [h.rules, h.reply?_eq]

variable (disk s)

/-- A counter to which every request adds at most one is the number of requests that do. -/
theorem eq_add_countP (counter : Metrics → Nat) (adds : Server → Visit → Bool)
    (hvisit : ∀ t v m, counter (m.recordAll (visit disk t v).1.events) =
      counter m + if adds t v then 1 else 0)
    (hsame : ∀ t t', SameInForce disk t t' → adds t' = adds t) (m : Metrics)
    (visits : List Visit) :
    counter (s.counted disk m visits) = counter m + visits.countP (adds s) := by
  induction visits generalizing s m with
  | nil => rfl
  | cons v rest ih =>
    have hinForce := hsame _ _ (sameInForce_visit disk s v)
    rw [counted, ih, hinForce, hvisit, List.countP_cons]
    omega

/-- The matches of an action are the requests that such a rule matches. -/
theorem matched_counted (visits : List Visit) (a : Action) :
    (s.counted disk .initial visits).matched a =
      visits.countP fun v => (s.rulesOn disk).action? v.request.target = some a := by
  have hsum := eq_add_countP disk s (fun m => m.matched a)
    (fun t v => (t.rulesOn disk).action? v.request.target = some a)
    (fun t v m => by simpa using (adds_visit disk t v m).matched a)
    (fun t t' hsame => by rw [hsame.rules]) .initial visits
  exact hsum.trans (Nat.zero_add _)

/-- The outcomes and the samples of each kind are the requests that came to it. -/
theorem outcomes_counted (visits : List Visit) (o : Outcome) :
    (s.counted disk .initial visits).forwarded o =
        (visits.countP fun v => s.outcome? disk v = some o) ∧
      (s.counted disk .initial visits).samples o =
        (visits.countP fun v => s.outcome? disk v = some o) := by
  have hsame : ∀ t t' : Server, SameInForce disk t t' →
      (fun v => decide (t'.outcome? disk v = some o)) =
        fun v => decide (t.outcome? disk v = some o) := by
    intro t t' h
    rw [h.outcome?_eq]
  have hforwarded := eq_add_countP disk s (fun m => m.forwarded o)
    (fun t v => t.outcome? disk v = some o)
    (fun t v m => by simpa using (adds_visit disk t v m).forwarded o) hsame .initial visits
  have hsamples := eq_add_countP disk s (fun m => m.samples o)
    (fun t v => t.outcome? disk v = some o)
    (fun t v m => by simpa using (adds_visit disk t v m).samples o) hsame .initial visits
  exact ⟨hforwarded.trans (Nat.zero_add _), hsamples.trans (Nat.zero_add _)⟩

/-- The requests of all kinds together are those that are of any kind. -/
theorem sum_countP {α β : Type} [DecidableEq β] {all : List β} (hnodup : all.Nodup)
    (hall : ∀ b, b ∈ all) (f : α → Option β) (l : List α) :
    (all.map fun b => l.countP fun a => f a = some b).sum = l.countP fun a => (f a).isSome := by
  induction l with
  | nil => simp
  | cons a l ih =>
    have hone : (all.map fun b => if f a = some b then 1 else 0).sum =
        if (f a).isSome then 1 else 0 := by
      cases f a with
      | none => simp
      | some b =>
        have hother : ∀ c, c ≠ b → c ∈ all → (if some b = some c then 1 else 0) = 0 := by
          intro c hc _
          simp [Ne.symm hc]
        rw [List.sum_map_eq_nsmul_single b _ hother, List.count_eq_one_of_mem hnodup (hall b)]
        simp
    simp only [List.countP_cons, List.sum_map_add, ih, decide_eq_true_eq, hone]

/-- All matches together are the requests that a rule matches. -/
theorem sum_matched_counted (visits : List Visit) :
    (Action.all.map (s.counted disk .initial visits).matched).sum =
      visits.countP fun v => ((s.rulesOn disk).resolveTarget v.request.target).isSome := by
  have hmatched := funext (matched_counted disk s visits)
  rw [hmatched, sum_countP (by decide) (by intro a; cases a <;> decide)]
  simp [RuleSet.action?]

/-- All outcomes together are the requests that were forwarded. -/
theorem sum_forwarded_counted (visits : List Visit) :
    (s.counted disk .initial visits).forwarded .ok +
        (s.counted disk .initial visits).forwarded .error =
      visits.countP fun v => ((s.rulesOn disk).plan v.request.target).isProxy := by
  have hsum : (Outcome.all.map fun o => visits.countP fun v => s.outcome? disk v = some o).sum =
      visits.countP fun v => (s.outcome? disk v).isSome :=
    sum_countP (by decide) (by intro o; cases o <;> decide) _ _
  have hproxy : ∀ v, (s.outcome? disk v).isSome =
      ((s.rulesOn disk).plan v.request.target).isProxy := by
    intro v
    unfold outcome?
    split <;> simp_all
  simp only [Outcome.all, List.map_cons, List.map_nil, List.sum_cons, List.sum_nil, Nat.add_zero,
    hproxy] at hsum
  rw [(outcomes_counted disk s visits .ok).1, (outcomes_counted disk s visits .error).1, ← hsum]

/-- One more request that is forwarded raises the counter of one outcome, and its samples. -/
theorem existsUnique_outcome (visits : List Visit) (v : Visit)
    (hproxy : ((s.rulesOn disk).plan v.request.target).isProxy = true) :
    ∃! o, ∀ p,
      (s.counted disk .initial (visits ++ [v])).forwarded p =
        (s.counted disk .initial visits).forwarded p + (if p = o then 1 else 0) ∧
      (s.counted disk .initial (visits ++ [v])).samples p =
        (s.counted disk .initial visits).samples p + (if p = o then 1 else 0) := by
  have houtcome : s.outcome? disk v = some (.ofReply (s.reply? disk v)) := by
    unfold outcome?
    rw [if_pos hproxy]
  have hlast : ∀ p, [v].countP (fun v => s.outcome? disk v = some p) =
      if p = .ofReply (s.reply? disk v) then 1 else 0 := by
    intro p
    simp only [List.countP_singleton, houtcome, Option.some_inj, decide_eq_true_eq,
      eq_comm (a := p)]
  have hnext : ∀ p, (visits ++ [v]).countP (fun v => s.outcome? disk v = some p) =
      visits.countP (fun v => s.outcome? disk v = some p) +
        if p = .ofReply (s.reply? disk v) then 1 else 0 := by
    intro p
    rw [List.countP_append, hlast]
  simp only [outcomes_counted, and_self]
  refine ⟨.ofReply (s.reply? disk v), hnext, fun o ho => ?_⟩
  have hraised := ho o
  rw [hnext, if_pos rfl] at hraised
  by_contra hne
  rw [if_neg hne] at hraised
  omega

/-- One more request that is not forwarded raises no counter of an outcome. -/
theorem outcomes_of_not_proxy (visits : List Visit) (v : Visit)
    (hproxy : ((s.rulesOn disk).plan v.request.target).isProxy = false) (p : Outcome) :
    (s.counted disk .initial (visits ++ [v])).forwarded p =
        (s.counted disk .initial visits).forwarded p ∧
      (s.counted disk .initial (visits ++ [v])).samples p =
        (s.counted disk .initial visits).samples p := by
  have houtcome : s.outcome? disk v = none := by
    unfold outcome?
    rw [hproxy]
    rfl
  have hlast : [v].countP (fun v => s.outcome? disk v = some p) = 0 := by
    simp [houtcome]
  have hnext : (visits ++ [v]).countP (fun v => s.outcome? disk v = some p) =
      visits.countP fun v => s.outcome? disk v = some p := by
    rw [List.countP_append, hlast, Nat.add_zero]
  simp only [outcomes_counted, hnext, and_self]

/-- What the targets of requests say about how many they are does not depend on their order. -/
theorem countP_of_perm {visits visits' : List Visit}
    (h : (visits.map Visit.request).Perm (visits'.map Visit.request)) (p : RequestTarget → Bool) :
    (visits'.countP fun v => p v.request.target) = visits.countP fun v => p v.request.target := by
  have hrequests := h.countP_eq fun r => p r.target
  rw [List.countP_map, List.countP_map] at hrequests
  exact hrequests.symm

/-- What is forwarded was matched by a rule that forwards. -/
theorem action?_of_proxy {rules : RuleSet} {arrival : RequestTarget} {target : ProxyTarget}
    (h : rules.plan arrival = .proxy target) : rules.action? arrival = some .proxy := by
  unfold RuleSet.plan at h
  unfold RuleSet.action?
  cases hfound : rules.resolveTarget arrival with
  | none =>
    rw [hfound] at h
    cases h
  | some found =>
    rw [hfound] at h
    dsimp only at h
    rw [Option.map_some]
    revert h
    fun_cases Dispatch.ofMatch found arrival.query with
    | case4 haction => exact fun _ => congrArg some haction
    | case5 haction => exact fun _ => congrArg some haction
    | _ =>
      intro h
      cases h

/-- After any requests, the counter of an action is the number of requests that a rule with this
action matched, and all these counters together are the number of those that any rule matched. The
counter of an outcome is the number of requests that were forwarded and ended so, and the samples
are as many; both counters together are the number of requests that were to be forwarded. Each of
them raises one of the two, by one, and the samples with it; others raise neither. In another order,
whatever other servers reply and whichever identifiers are given, the same requests give the same
counters of actions, and as many are forwarded. -/
theorem every_request_is_counted_once (disk : Disk) (s : Server) (visits : List Visit) :
    let rules := s.rulesOn disk
    let now := s.counted disk .initial visits
    (∀ a, now.matched a = visits.countP fun v => rules.action? v.request.target = some a) ∧
    (Action.all.map now.matched).sum =
      (visits.countP fun v => (rules.resolveTarget v.request.target).isSome) ∧
    (∀ o, now.forwarded o = visits.countP fun v => s.outcome? disk v = some o) ∧
    (∀ o, now.samples o = now.forwarded o) ∧
    now.forwarded .ok + now.forwarded .error =
      (visits.countP fun v => (rules.plan v.request.target).isProxy) ∧
    (∀ v,
      let next := s.counted disk .initial (visits ++ [v])
      ((rules.plan v.request.target).isProxy = true →
        ∃! o, ∀ p, next.forwarded p = now.forwarded p + (if p = o then 1 else 0) ∧
          next.samples p = now.samples p + (if p = o then 1 else 0)) ∧
      ((rules.plan v.request.target).isProxy = false →
        ∀ p, next.forwarded p = now.forwarded p ∧ next.samples p = now.samples p)) ∧
    ∀ visits' : List Visit, (visits.map Visit.request).Perm (visits'.map Visit.request) →
      let other := s.counted disk .initial visits'
      (∀ a, other.matched a = now.matched a) ∧
      other.forwarded .ok + other.forwarded .error = now.forwarded .ok + now.forwarded .error := by
  intro rules now
  have houtcomes := outcomes_counted disk s visits
  refine ⟨matched_counted disk s visits, sum_matched_counted disk s visits,
    fun o => (houtcomes o).1, fun o => (houtcomes o).2.trans (houtcomes o).1.symm,
    sum_forwarded_counted disk s visits, ?_, ?_⟩
  · intro v
    exact ⟨existsUnique_outcome disk s visits v, outcomes_of_not_proxy disk s visits v⟩
  · intro visits' hperm
    constructor
    · intro a
      rw [matched_counted, matched_counted]
      exact countP_of_perm hperm fun target => rules.action? target = some a
    · rw [sum_forwarded_counted, sum_forwarded_counted]
      exact countP_of_perm hperm fun target => (rules.plan target).isProxy

/-- A server whose only rule forwards everything to what is no address of a server. -/
def aimless : Server := ⟨.fixed [⟨.proxy, .textStart, "d"⟩], ⟨"views", []⟩, .default⟩

/-- The rule of this server matches, and forwards to nowhere. -/
theorem plan_aimless (target : RequestTarget) :
    (aimless.rulesOn ruleDisk).action? target = some .proxy ∧
      (aimless.rulesOn ruleDisk).plan target = .passThrough := by
  have hrules : aimless.rulesOn ruleDisk = [⟨.proxy, .textStart, "d"⟩] := rfl
  have htext : Template.expand "d" [some ""] = "d" := by decide +kernel
  have hurl : WebUrl.parse? "d" = none := by decide +kernel
  rw [hrules]
  constructor
  · rw [RuleSet.action?, RuleSet.resolveTarget_textStart]
    rfl
  · rw [RuleSet.plan_textStart]
    unfold Dispatch.ofMatch Match.target ProxyTarget.parse
    dsimp only
    rw [htext, hurl]

/-- The outcome of a request that is sent there is what comes back. -/
theorem outcome?_asked (fresh : Bytes) (reply : Except ProxyError Response) :
    rereading.outcome? ruleDisk (asked fresh reply) = some (.ofReply (some reply)) := by
  unfold outcome?
  rw [plan_rereading _ rfl, reply?_asked]
  rfl

/-- Of two requests that are forwarded, the first is not answered. In either order both are counted
as matched, and as forwarded. A request whose rule leads nowhere is matched and not forwarded. -/
theorem every_request_is_counted_once_unanswered :
    let unanswered := asked [49] (.error (.timeout 1))
    let answered := asked [50] (.ok (.bare 204))
    ((rereading.counted ruleDisk .initial [unanswered, answered]).matched .proxy = 2 ∧
      (rereading.counted ruleDisk .initial [unanswered, answered]).forwarded .ok = 1 ∧
      (rereading.counted ruleDisk .initial [unanswered, answered]).samples .error = 1) ∧
    ((rereading.counted ruleDisk .initial [answered, unanswered]).matched .proxy = 2 ∧
      (rereading.counted ruleDisk .initial [answered, unanswered]).forwarded .ok +
        (rereading.counted ruleDisk .initial [answered, unanswered]).forwarded .error = 2) ∧
    (aimless.counted ruleDisk .initial [answered]).matched .proxy = 1 ∧
    (aimless.counted ruleDisk .initial [answered]).forwarded .ok +
      (aimless.counted ruleDisk .initial [answered]).forwarded .error = 0 := by
  intro unanswered answered
  have hmatch : ∀ v ∈ [unanswered, answered],
      (rereading.rulesOn ruleDisk).action? v.request.target = some .proxy := by
    intro v hv
    refine action?_of_proxy (plan_rereading v.request.target ?_)
    rcases List.mem_pair.mp hv with rfl | rfl <;> rfl
  have hboth : [unanswered, answered].countP (fun v =>
      (rereading.rulesOn ruleDisk).action? v.request.target = some .proxy) = 2 := by
    have hlength : [unanswered, answered].length = 2 := rfl
    rw [← hlength, List.countP_eq_length]
    intro v hv
    exact decide_eq_true (hmatch v hv)
  have hone : ∀ o, [unanswered, answered].countP
      (fun v => rereading.outcome? ruleDisk v = some o) = 1 := by
    intro o
    simp only [List.countP_cons, List.countP_nil, unanswered, answered, outcome?_asked]
    cases o <;> rfl
  have haim : [answered].countP
      (fun v => (aimless.rulesOn ruleDisk).action? v.request.target = some .proxy) = 1 := by
    rw [List.countP_singleton, if_pos (decide_eq_true (plan_aimless _).1)]
  have hnowhere : [answered].countP
      (fun v => ((aimless.rulesOn ruleDisk).plan v.request.target).isProxy) = 0 := by
    rw [List.countP_singleton, (plan_aimless _).2]
    rfl
  obtain ⟨hmatched, -, hforwarded, hsamples, -, -, hperm⟩ :=
    every_request_is_counted_once ruleDisk rereading [unanswered, answered]
  obtain ⟨hother, hsum⟩ := hperm [answered, unanswered] (List.Perm.swap _ _ _)
  obtain ⟨haside, -, -, -, hnone, -⟩ := every_request_is_counted_once ruleDisk aimless [answered]
  refine ⟨⟨?_, ?_, ?_⟩, ⟨?_, ?_⟩, ?_, ?_⟩
  · rw [hmatched, hboth]
  · rw [hforwarded, hone]
  · rw [hsamples, hforwarded, hone]
  · rw [hother, hmatched, hboth]
  · rw [hsum, hforwarded, hforwarded, hone, hone]
  · rw [haside, haim]
  · rw [hnone, hnowhere]

end Server

end PagePreview
