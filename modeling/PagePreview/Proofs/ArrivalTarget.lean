import PagePreview.Proofs.FirstMatch

/-!
# The target that a request arrived with

A rule that gives a request another target, or forwards it, records the target first. However many
sets of rules a request passes, the target that it arrived with is therefore never lost: each set
does nothing to a request but record its target and put another in its place, in this order, and
the first record is the one that stays.
-/

namespace PagePreview

/-- What is done to the target of a request. -/
inductive Touch where
  /-- It is recorded as the one that the request arrived with. -/
  | preserve
  /-- Another takes its place. -/
  | assign (target : RequestTarget)
  deriving DecidableEq, Repr

namespace Touch

/-- The target that takes the place of another. -/
def assigned? : Touch → Option RequestTarget
  | .preserve => none
  | .assign target => some target

/-- The target that was put in place last, or the one that was there at the start. -/
def lastAssigned (start : RequestTarget) (touches : List Touch) : RequestTarget :=
  (touches.filterMap assigned?).getLast?.getD start

/-- The first touch counts only if none that follows assigns a target. -/
theorem lastAssigned_cons (start : RequestTarget) (touch : Touch) (rest : List Touch) :
    lastAssigned start (touch :: rest) = lastAssigned (touch.assigned?.getD start) rest := by
  unfold lastAssigned
  rw [List.filterMap_cons]
  cases touch.assigned? with
  | none => rfl
  | some target =>
    dsimp only
    rw [List.getLast?_cons]
    rfl

end Touch

namespace Request

/-- Do one thing to the target. -/
def touch (r : Request) : Touch → Request
  | .preserve => r.preserve
  | .assign target => { r with target }

variable (r : Request)

/-- A request has the target that it was assigned, or the one it had. -/
theorem touch_target (t : Touch) : (r.touch t).target = t.assigned?.getD r.target := by
  cases t <;> rfl

/-- A request has the target that it was given last. -/
theorem target_foldl_touch (touches : List Touch) :
    (touches.foldl touch r).target = Touch.lastAssigned r.target touches := by
  induction touches generalizing r with
  | nil => rfl
  | cons t rest ih => rw [List.foldl_cons, ih, touch_target, Touch.lastAssigned_cons]

/-- What is recorded stays. -/
theorem recorded_foldl_touch {first : RequestTarget} (h : r.recorded = some first)
    (touches : List Touch) : (touches.foldl touch r).recorded = some first := by
  induction touches generalizing r with
  | nil => exact h
  | cons t rest ih =>
    apply ih
    cases t with
    | preserve =>
      change some r.arrivalTarget = some first
      unfold arrivalTarget
      rw [h, Option.getD_some]
    | assign target => exact h

/-- Another target alone leaves no record. -/
theorem recorded_foldl_touch_of_not_mem {touches : List Touch} (h : .preserve ∉ touches) :
    (touches.foldl touch r).recorded = r.recorded := by
  induction touches generalizing r with
  | nil => rfl
  | cons t rest ih =>
    rw [List.foldl_cons, ih _ fun hrest => h (List.mem_cons_of_mem t hrest)]
    cases t with
    | preserve => exact absurd List.mem_cons_self h
    | assign target => rfl

variable {r}

/-- A request without a record arrived with the target it has. -/
theorem arrivalTarget_of_recorded_none (h : r.recorded = none) : r.arrivalTarget = r.target := by
  unfold arrivalTarget
  rw [h, Option.getD_none]

/-- Nothing that comes after the first record changes what the request arrived with. -/
theorem arrivalTarget_foldl_touch (h : r.recorded = none) {before : List Touch}
    (hb : .preserve ∉ before) (after : List Touch) :
    ((before ++ .preserve :: after).foldl touch r).arrivalTarget =
      Touch.lastAssigned r.target before := by
  have hnone : (before.foldl touch r).recorded = none := by
    rw [recorded_foldl_touch_of_not_mem r hb, h]
  have hfirst : ((before.foldl touch r).touch .preserve).recorded =
      some (Touch.lastAssigned r.target before) := by
    rw [← target_foldl_touch, ← arrivalTarget_of_recorded_none hnone]
    rfl
  rw [List.foldl_append, List.foldl_cons]
  unfold arrivalTarget
  rw [recorded_foldl_touch _ hfirst, Option.getD_some]

end Request

/-! ## Sets of rules, one after the other -/

namespace Dispatch

/-- What a decision does to the target of a request, in order. -/
def touches : Dispatch → List Touch
  | .passThrough => []
  | .redirect _ => []
  | .rewrite target => [.preserve, .assign target]
  | .proxy _ => [.preserve]

/-- The target that a decision puts in place. -/
def rewritten? : Dispatch → Option RequestTarget
  | .rewrite target => some target
  | _ => none

/-- The target of the last rewrite, or the one that was there at the start. -/
def lastRewrite (start : RequestTarget) (decisions : List Dispatch) : RequestTarget :=
  (decisions.filterMap rewritten?).getLast?.getD start

/-- Of several decisions, the last rewrite assigns the target. -/
theorem lastAssigned_touches (start : RequestTarget) (decisions : List Dispatch) :
    Touch.lastAssigned start (decisions.flatMap touches) = lastRewrite start decisions := by
  have hsame : (decisions.flatMap touches).filterMap Touch.assigned? =
      decisions.filterMap rewritten? := by
    induction decisions with
    | nil => rfl
    | cons d rest ih =>
      rw [List.flatMap_cons, List.filterMap_append, ih]
      cases d <;> rfl
  unfold Touch.lastAssigned lastRewrite
  rw [hsame]

/-- No target is put in place before one is recorded. -/
theorem touches_records_first (decisions : List Dispatch) :
    decisions.flatMap touches = [] ∨ ∃ rest, decisions.flatMap touches = .preserve :: rest := by
  induction decisions with
  | nil => exact Or.inl rfl
  | cons d rest ih =>
    rw [List.flatMap_cons]
    cases d with
    | passThrough => exact ih
    | redirect location => exact ih
    | rewrite target => exact Or.inr ⟨_, rfl⟩
    | proxy target => exact Or.inr ⟨_, rfl⟩

end Dispatch

/-- The request that a step hands on. -/
def Step.request? : Step → Option Request
  | .proceed r => some r
  | .respond _ => none
  | .forward r _ => some r

/-- What one set of rules makes of a request. -/
structure Passage where
  /-- What the rules decide. -/
  decided : Dispatch
  /-- What becomes of the request. -/
  step : Step

namespace RuleSet

/-- Offer a request to one set of rules after the other, until it is answered or forwarded. -/
def passAll : List RuleSet → Request → List Passage
  | [], _ => []
  | rules :: rest, r =>
    let decided := rules.plan r.target
    let step := decided.apply r
    ⟨decided, step⟩ :: match step with
      | .proceed q => passAll rest q
      | .respond _ => []
      | .forward _ _ => []

/-- A request is handed on with its target touched, and otherwise as it is. -/
theorem request_apply {decided : Dispatch} {r q : Request}
    (h : (decided.apply r).request? = some q) : q = decided.touches.foldl Request.touch r := by
  cases decided with
  | passThrough => exact (Option.some.inj h).symm
  | redirect location => cases h
  | rewrite target => exact (Option.some.inj h).symm
  | proxy target => exact (Option.some.inj h).symm

/-- A request that is handed on has been touched by the decisions so far, and by nothing else. -/
theorem request_passAll {sets : List RuleSet} {r : Request} {before after : List Passage}
    {last : Passage} {q : Request} (h : passAll sets r = before ++ last :: after)
    (hq : last.step.request? = some q) :
    q = (((before ++ [last]).map (·.decided)).flatMap Dispatch.touches).foldl Request.touch r := by
  induction sets generalizing r before with
  | nil =>
    rw [passAll] at h
    exact absurd h.symm (List.append_ne_nil_of_right_ne_nil _ (List.cons_ne_nil _ _))
  | cons rules rest ih =>
    rw [passAll] at h
    cases before with
    | nil =>
      obtain ⟨hlast, -⟩ := List.cons.inj h
      subst hlast
      simpa using request_apply hq
    | cons first before =>
      obtain ⟨hfirst, hrest⟩ := List.cons.inj h
      subst hfirst
      -- Only a request that goes on comes to the sets that follow.
      cases hstep : (rules.plan r.target).apply r with
      | proceed q' =>
        rw [hstep] at hrest
        have hq' : q' = (rules.plan r.target).touches.foldl Request.touch r :=
          request_apply (by rw [hstep]; rfl)
        rw [ih hrest, hq', List.cons_append, List.map_cons, List.flatMap_cons, List.foldl_append]
      | respond response =>
        rw [hstep] at hrest
        exact absurd hrest.symm (List.append_ne_nil_of_right_ne_nil _ (List.cons_ne_nil _ _))
      | forward q' target =>
        rw [hstep] at hrest
        exact absurd hrest.symm (List.append_ne_nil_of_right_ne_nil _ (List.cons_ne_nil _ _))

/-- However many sets of rules a request passes, every request that is handed on or forwarded knows
the target of arrival, and has the target of the last rewrite. In whatever order targets are
recorded and put in place, the first record is the one that stays. -/
theorem arrivalTarget_stays {r : Request} (h : r.recorded = none) :
    (∀ (sets : List RuleSet) (before after : List Passage) (last : Passage) (q : Request),
      passAll sets r = before ++ last :: after → last.step.request? = some q →
      q.arrivalTarget = r.target ∧
      q.target = Dispatch.lastRewrite r.target ((before ++ [last]).map (·.decided))) ∧
    (∀ touches : List Touch,
      (touches.foldl Request.touch r).target = Touch.lastAssigned r.target touches ∧
      (∀ before after, touches = before ++ .preserve :: after → .preserve ∉ before →
        (touches.foldl Request.touch r).arrivalTarget = (before.foldl Request.touch r).target) ∧
      (.preserve ∉ touches →
        (touches.foldl Request.touch r).arrivalTarget =
          (touches.foldl Request.touch r).target)) := by
  constructor
  · intro sets before after last q hpass hq
    have htouched := request_passAll hpass hq
    constructor
    -- Either nothing was touched, or the very first touch recorded the target of arrival.
    · rcases Dispatch.touches_records_first ((before ++ [last]).map (·.decided)) with
        hnone | ⟨rest, hfirst⟩
      · rw [hnone] at htouched
        rw [htouched]
        exact Request.arrivalTarget_of_recorded_none h
      · rw [hfirst] at htouched
        rw [htouched]
        exact Request.arrivalTarget_foldl_touch h List.not_mem_nil rest
    · rw [htouched, Request.target_foldl_touch, Dispatch.lastAssigned_touches]
  · intro touches
    refine ⟨Request.target_foldl_touch r touches, ?_, ?_⟩
    · rintro before after rfl hb
      rw [Request.target_foldl_touch]
      exact Request.arrivalTarget_foldl_touch h hb after
    · intro hnone
      apply Request.arrivalTarget_of_recorded_none
      rw [Request.recorded_foldl_touch_of_not_mem r hnone, h]

/-- A rule that matches every text matches every target. -/
theorem resolveTarget_textStart (action : Action) (text : String) (target : RequestTarget) :
    RuleSet.resolveTarget [⟨action, .textStart, text⟩] target =
      some ⟨⟨action, .textStart, text⟩, [some ""]⟩ := by
  have hmatch : matchOf target.candidates ⟨action, .textStart, text⟩ =
      some ⟨⟨action, .textStart, text⟩, [some ""]⟩ := by
    unfold matchOf RequestTarget.candidates Rule.captures
    split <;> rw [List.findSome?_cons, Pattern.captures_textStart] <;> rfl
  have hnone : ∀ earlier ∈ ([] : RuleSet), ¬earlier.Matches target := by simp
  have hfirst := resolveTarget_first hnone hmatch []
  rw [List.nil_append, List.append_nil] at hfirst
  exact hfirst

/-- It decides for every target. -/
theorem plan_textStart (action : Action) (text : String) (target : RequestTarget) :
    RuleSet.plan [⟨action, .textStart, text⟩] target =
      .ofMatch ⟨⟨action, .textStart, text⟩, [some ""]⟩ target.query := by
  unfold plan
  rw [resolveTarget_textStart]

/-- Rules that forward everything to a server on the same machine. -/
def toOwnServer : RuleSet := [⟨.proxy, .textStart, "http://[::1]:3000/d"⟩]

/-- The server, asked with some query. -/
def ownServer (query : Option String) : ProxyTarget :=
  ⟨"http://[::1]:3000", "[::1]:3000", "/d", query⟩

/-- Every request is forwarded, with its query unless that is empty. -/
theorem plan_toOwnServer (arrival : RequestTarget) :
    toOwnServer.plan arrival = .proxy (ownServer (arrival.query.filter (· ≠ ""))) := by
  have htarget : Template.expand "http://[::1]:3000/d" [some ""] = "http://[::1]:3000/d" := by
    decide +kernel
  have hurl : WebUrl.parse? "http://[::1]:3000/d" =
      some ⟨"http", some (.ipv6 [0, 0, 0, 0, 0, 0, 0, 1]), some 3000, .segments ["d"], none,
        none⟩ := by
    decide +kernel
  have hparts : WebUrl.origin ⟨"http", some (.ipv6 [0, 0, 0, 0, 0, 0, 0, 1]), some 3000,
        .segments ["d"], none, none⟩ = "http://[::1]:3000" ∧
      WebUrl.authority (.ipv6 [0, 0, 0, 0, 0, 0, 0, 1]) (some 3000) = "[::1]:3000" ∧
      UrlPath.text (.segments ["d"]) = "/d" := by
    decide +kernel
  unfold toOwnServer
  rw [plan_textStart]
  unfold Dispatch.ofMatch Match.target ProxyTarget.parse
  dsimp only
  rw [htarget, hurl]
  simp only [hparts]
  rfl

/-- A request as it arrives. -/
def arriving : Request := ⟨"GET", ⟨none, "", "/a", none⟩, [], [], none⟩

/-- Two rewrites, with a set without rules between them, and then a proxy. -/
def twiceRewritten : List RuleSet :=
  [[⟨.rewrite, .textStart, "/b"⟩], [], [⟨.rewrite, .textStart, "/c?x=1"⟩],
    [⟨.proxy, .textStart, "http://[::1]:3000/d"⟩]]

/-- What becomes of a request that is rewritten twice. -/
theorem passAll_twiceRewritten :
    passAll twiceRewritten arriving =
      [⟨.rewrite ⟨none, "", "/b", none⟩,
          .proceed { arriving.preserve with target := ⟨none, "", "/b", none⟩ }⟩,
        ⟨.passThrough, .proceed { arriving.preserve with target := ⟨none, "", "/b", none⟩ }⟩,
        ⟨.rewrite ⟨none, "", "/c", some "x=1"⟩,
          .proceed { arriving.preserve with target := ⟨none, "", "/c", some "x=1"⟩ }⟩] ++
      [⟨.proxy ⟨"http://[::1]:3000", "[::1]:3000", "/d", some "x=1"⟩,
          .forward { arriving.preserve with target := ⟨none, "", "/c", some "x=1"⟩ }
            ⟨"http://[::1]:3000", "[::1]:3000", "/d", some "x=1"⟩⟩] := by
  have hb : rewriteTarget? (Template.expand "/b" [some ""]) = some ⟨none, "", "/b", none⟩ := by
    decide +kernel
  have hc : rewriteTarget? (Template.expand "/c?x=1" [some ""]) =
      some ⟨none, "", "/c", some "x=1"⟩ := by decide +kernel
  have hnone : ∀ target, RuleSet.plan [] target = .passThrough := fun target => rfl
  have hproxy := plan_toOwnServer ⟨none, "", "/c", some "x=1"⟩
  unfold toOwnServer at hproxy
  rw [plan_textStart] at hproxy
  simp only [passAll, twiceRewritten, plan_textStart, hnone, Dispatch.ofMatch, Match.target,
    hb, hc, Dispatch.apply] at hproxy ⊢
  rw [hproxy]
  rfl

/-- What is forwarded after two rewrites knows the target of arrival, and has that of the second;
a target that takes the place of another before any is recorded is the one that is recorded. -/
theorem arrivalTarget_stays_forwarded :
    arriving.recorded = none ∧
    (∃ before last q, passAll twiceRewritten arriving = before ++ [last] ∧
      last.step.request? = some q ∧ q.arrivalTarget = ⟨none, "", "/a", none⟩ ∧
      q.target = ⟨none, "", "/c", some "x=1"⟩) ∧
    ([.assign ⟨none, "", "/b", none⟩, .preserve, .assign ⟨none, "", "/c", none⟩, .preserve].foldl
      Request.touch arriving).arrivalTarget = ⟨none, "", "/b", none⟩ := by
  obtain ⟨hpass, htouch⟩ := arrivalTarget_stays (rfl : arriving.recorded = none)
  refine ⟨rfl, ⟨_, _, _, passAll_twiceRewritten, rfl, ?_⟩, ?_⟩
  · exact hpass _ _ _ _ _ passAll_twiceRewritten rfl
  · exact (htouch _).2.1 [.assign ⟨none, "", "/b", none⟩]
      [.assign ⟨none, "", "/c", none⟩, .preserve] rfl (by decide)

end RuleSet

end PagePreview
