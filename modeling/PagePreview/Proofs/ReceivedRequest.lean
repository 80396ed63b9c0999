import PagePreview.Proofs.ArrivalTarget
import PagePreview.Proofs.HeaderFields
import PagePreview.Proofs.Responders

/-!
# The request that is handed on

Whoever is asked to answer a request gets the request of the client: a data script, a script and
the application all get the same one. It has the client's method, body and header fields, with an
identifier if the client sent none, and the client's target, unless a rewrite takes place. A script
that declines is taken to leave the request as it is.
-/

namespace PagePreview

/-- The request that somebody gets in an event. -/
def Event.received? : Event → Option Request
  | .augmented _ q => some q
  | .scripted _ q => some q
  | .delegated q => some q
  | .matched _ => none
  | .forwarded _ _ => none
  | .tested _ => none
  | .opened _ => none
  | .rendered _ => none

/-- Whoever gets a request in this event gets this one. -/
def Event.Hands (q : Request) (e : Event) : Prop := ∀ q', e.received? = some q' → q' = q

/-! ## Rewrites -/

namespace RuleSet

/-- A rewrite takes place: of the rules that match, the first one is a rewrite, and its target with
the captured groups filled in is read as a request target, a path or a URL with a scheme. -/
def Rewrites (rules : RuleSet) (arrival target : RequestTarget) : Prop :=
  ∃ before rule after m, rules = before ++ [rule] ++ after ∧
    (∀ earlier ∈ before, ¬earlier.Matches arrival) ∧
    matchOf arrival.candidates rule = some m ∧ rule.action = .rewrite ∧
    RequestTarget.parse (Template.expand rule.target m.groups) = .ok target ∧
    ((Template.expand rule.target m.groups).toList.head? = some '/' ∨ target.scheme.isSome)

/-- A rewritten target begins with a slash or has a scheme. -/
theorem rewriteTarget?_eq_some_iff {text : String} {target : RequestTarget} :
    rewriteTarget? text = some target ↔ RequestTarget.parse text = .ok target ∧
      (text.toList.head? = some '/' ∨ target.scheme.isSome) := by
  unfold rewriteTarget?
  cases RequestTarget.parse text with
  | error e => simp
  | ok t =>
    dsimp only
    constructor
    · intro h
      by_cases husable : text.toList.head? = some '/' ∨ t.scheme.isSome
      · rw [if_pos husable] at h
        cases h
        exact ⟨rfl, husable⟩
      · rw [if_neg husable] at h
        cases h
    · rintro ⟨h, husable⟩
      cases h
      rw [if_pos husable]

/-- A rule without a match does not match. -/
theorem not_matches_of_matchOf_eq_none {rule : Rule} {arrival : RequestTarget}
    (h : matchOf arrival.candidates rule = none) : ¬rule.Matches arrival := by
  intro hmatches
  obtain ⟨m, hm⟩ := matchOf_isSome hmatches
  rw [hm] at h
  cases h

/-- A decision to rewrite is a rewrite that takes place. -/
theorem plan_eq_rewrite_iff {rules : RuleSet} {arrival target : RequestTarget} :
    rules.plan arrival = .rewrite target ↔ rules.Rewrites arrival target := by
  constructor
  · intro h
    unfold plan at h
    cases hresolve : rules.resolveTarget arrival with
    | none =>
      rw [hresolve] at h
      cases h
    | some m =>
      rw [hresolve] at h
      dsimp only at h
      obtain ⟨before, rule, after, hrules, hm, hbefore⟩ := List.findSome?_eq_some_iff.mp hresolve
      obtain ⟨hrule, -⟩ := matchOf_eq_some_iff.mp hm
      revert h
      fun_cases Dispatch.ofMatch m arrival.query with
      | case2 haction t ht =>
        intro h
        cases h
        rw [hrule] at haction
        rw [Match.target, hrule] at ht
        obtain ⟨hparse, husable⟩ := rewriteTarget?_eq_some_iff.mp ht
        refine ⟨before, rule, after, m, by simpa using hrules, ?_, hm, haction, hparse, husable⟩
        intro earlier hearlier
        exact not_matches_of_matchOf_eq_none (hbefore earlier hearlier)
      | _ =>
        intro h
        cases h
  · rintro ⟨before, rule, after, m, rfl, hbefore, hm, haction, hparse, husable⟩
    obtain ⟨hrule, -⟩ := matchOf_eq_some_iff.mp hm
    have htarget : rewriteTarget? m.target = some target := by
      rw [Match.target, hrule]
      exact rewriteTarget?_eq_some_iff.mpr ⟨hparse, husable⟩
    unfold plan
    rw [resolveTarget_first hbefore hm after]
    dsimp only
    unfold Dispatch.ofMatch
    rw [hrule, haction]
    dsimp only
    rw [htarget]

end RuleSet

/-! ## The request that comes out of a decision -/

namespace Request

variable (fresh : Bytes) (r : Request)

/-- The field that is added to a request that has no identifier. -/
def addedFields : Headers :=
  if Headers.values requestIdName r.headers = [] then [⟨requestIdName, fresh⟩] else []

/-- An identified request has one field more, or none. -/
theorem identify_eq :
    r.identify fresh = { r with headers := r.headers ++ r.addedFields fresh } := by
  unfold identify addedFields
  cases hid : Headers.first? requestIdName r.headers with
  | none => rw [if_pos (Headers.values_eq_nil_iff.mpr hid)]
  | some id =>
    have hsent : Headers.values requestIdName r.headers ≠ [] := by
      rw [ne_eq, Headers.values_eq_nil_iff, hid]
      exact Option.some_ne_none id
    rw [if_neg hsent, List.append_nil]

/-- Its target is the same. -/
theorem identify_target : (r.identify fresh).target = r.target := by
  rw [identify_eq]

/-- So is its method. -/
theorem identify_method : (r.identify fresh).method = r.method := by
  rw [identify_eq]

/-- No field is lost, and no other than an identifier is added, to a request that has none. -/
theorem values_identify (name : String) :
    Headers.values name (r.identify fresh).headers =
      if name = requestIdName ∧ Headers.values requestIdName r.headers = [] then [fresh]
      else Headers.values name r.headers := by
  rw [identify_eq]
  dsimp only
  rw [Headers.values_append]
  unfold addedFields
  by_cases hid : Headers.values requestIdName r.headers = []
  · rw [if_pos hid]
    by_cases hname : name = requestIdName
    · subst hname
      rw [if_pos ⟨rfl, hid⟩, hid]
      simp [Headers.values]
    · have hother : ¬requestIdName = name := fun he => hname he.symm
      rw [if_neg fun h => hname h.1]
      simp [Headers.values, hother]
  · rw [if_neg hid, if_neg fun h => hid h.2]
    exact List.append_nil _

end Request

/-- The request as a decision hands it on to the stages. -/
def Dispatch.handedOn : Dispatch → Request → Request
  | .rewrite target, r => { r.preserve with target }
  | _, r => r

/-- What a handler or the application gets, compared with what the client sent. -/
structure HandedOn (rules : RuleSet) (fresh : Bytes) (r q : Request) : Prop where
  /-- The client's method. -/
  method : q.method = r.method
  /-- The client's body. -/
  body : q.body = r.body
  /-- The client's fields in their order, and perhaps another one after them. -/
  headers : q.headers = r.headers ++ r.addedFields fresh
  /-- The values of each field, but for an identifier where the client sent none. -/
  values : ∀ name, Headers.values name q.headers =
    if name = requestIdName ∧ Headers.values requestIdName r.headers = [] then [fresh]
    else Headers.values name r.headers
  /-- The client's target, unless a rewrite takes place. Only then a target is recorded: the one
  that the request arrived with. -/
  target :
    (∃ target, rules.Rewrites r.target target ∧ q.target = target ∧
      q.recorded = some r.arrivalTarget) ∨
    ((∀ target, ¬rules.Rewrites r.target target) ∧ q.target = r.target ∧ q.recorded = r.recorded)

/-- What rules decide about a request says what is handed on. -/
theorem handedOn_plan (rules : RuleSet) (fresh : Bytes) (r : Request) :
    HandedOn rules fresh r ((rules.plan r.target).handedOn (r.identify fresh)) := by
  have hvalues := r.values_identify fresh
  rw [Request.identify_eq] at hvalues ⊢
  cases hplan : rules.plan r.target with
  | rewrite target =>
    have htarget := RuleSet.plan_eq_rewrite_iff.mp hplan
    exact ⟨rfl, rfl, rfl, hvalues, Or.inl ⟨target, htarget, rfl, rfl⟩⟩
  | _ =>
    have hnone : ∀ target, ¬rules.Rewrites r.target target := by
      intro target htarget
      rw [RuleSet.plan_eq_rewrite_iff.mpr htarget] at hplan
      cases hplan
    exact ⟨rfl, rfl, rfl, hvalues, Or.inr ⟨hnone, rfl, rfl⟩⟩

/-! ## Who gets it -/

namespace Site

open Traced

variable (site : Site) (q : Request)

/-- The preview hands on the request that it is given. -/
theorem preview_hands : (site.preview q).All (Event.Hands q) := by
  refine (preview_all site q).mono ?_
  rintro e ⟨page, -, hdoes⟩ q' hq'
  cases hdoes with
  | template ht => cases hq'
  | dataLooks hl => cases hl; cases hq'
  | dataOpened hf => cases hq'
  | scriptLooks hl => cases hl; cases hq'
  | augmented hf => exact (Option.some.inj hq').symm
  | rendered hp => cases hq'

/-- So do the fixtures. -/
theorem script_hands : (site.script q).All (Event.Hands q) := by
  refine (script_all site q).mono ?_
  intro e hdoes q' hq'
  cases hdoes with
  | looks hf hl => cases hl; cases hq'
  | opened hf hk => cases hq'
  | scripted hf hk => exact (Option.some.inj hq').symm

/-- All stages and the application get the same request. -/
theorem serve_hands : (site.serve q).All (Event.Hands q) :=
  serve_all site q (preview_hands site q) (script_hands site q) fun _ hq' =>
    (Option.some.inj hq').symm

end Site

/-- Two applications that do the same with one request, whatever they do with others. -/
structure Hooks.SameFor (q : Request) (a b : Hooks) : Prop where
  /-- The same pages. -/
  render : b.render = a.render
  /-- The same scripts. -/
  script : ∀ file, b.script.map (· file q) = a.script.map (· file q)
  /-- The same data scripts. -/
  pageData : ∀ file, b.pageData.map (· file q) = a.pageData.map (· file q)
  /-- The same answer in the end. -/
  inner : b.inner q = a.inner q

/-- Such applications have handlers of the same kinds. -/
theorem Hooks.SameFor.sameShape {q : Request} {site : Site} {hooks : Hooks}
    (h : site.hooks.SameFor q hooks) : site.SameShape { site with hooks } := by
  have hpageData := congrArg Option.isSome (h.pageData "")
  have hscript := congrArg Option.isSome (h.script "")
  rw [Option.isSome_map, Option.isSome_map] at hpageData hscript
  exact ⟨rfl, hpageData, hscript⟩

namespace Server

open Traced

/-- Whatever is decided, every receiver is handed the request that this says. -/
theorem carryOut_hands (network : Network) (site : Site) (decided : Dispatch) (r : Request) :
    (carryOut network site (decided.apply r)).All (Event.Hands (decided.handedOn r)) := by
  cases decided with
  | passThrough => exact site.serve_hands r
  | redirect location => exact all_pure _
  | rewrite target => exact site.serve_hands _
  | proxy target =>
    refine all_bind.mpr ⟨all_note.mpr ?_, all_pure _⟩
    intro q' hq'
    cases hq'

/-- So it is for whatever the rules decide. -/
theorem answer_hands (network : Network) (site : Site) (rules : RuleSet) (r : Request) :
    (answer network site rules r).All (Event.Hands ((rules.plan r.target).handedOn r)) := by
  intro e he
  rw [answer_events, List.mem_append] at he
  rcases he with hmatch | hcarry
  · obtain ⟨action, rfl⟩ := noteMatch_events rules r.target e hmatch
    intro q' hq'
    cases hq'
  · exact carryOut_hands network site _ r e hcarry

/-- Applications that do the same with the request that is handed on give the same run. -/
theorem answer_of_sameFor (network : Network) (site : Site) (rules : RuleSet) (r : Request)
    {hooks : Hooks} (h : site.hooks.SameFor ((rules.plan r.target).handedOn r) hooks) :
    answer network { site with hooks } rules r = answer network site rules r := by
  refine answer_congr h.sameShape (fun _ _ _ => rfl) ?_
  intro e he
  have hhands := answer_hands network site rules r e he
  cases e with
  | augmented file q => rw [hhands q rfl]; exact h.pageData file
  | scripted file q => rw [hhands q rfl]; exact h.script file
  | delegated q => rw [hhands q rfl]; exact h.inner
  | rendered template => exact congrFun h.render template
  | _ => trivial

/-- A data script, a script and the application all get one request: the client's, with an
identifier if it had none, and with the target of a rewrite if one takes place. What they would do
with any other request has no influence. -/
theorem client_request_is_handed_on (network : Network) (disk : Disk) (fresh : Bytes) (s : Server)
    (r : Request) :
    ∃ q, HandedOn (s.rulesOn disk) fresh r q ∧
      (∀ e ∈ (s.handle network disk fresh r).1.events, ∀ q', e.received? = some q' → q' = q) ∧
      (∀ hooks, s.hooks.SameFor q hooks →
        (handle network disk fresh { s with hooks } r).1 = (s.handle network disk fresh r).1) := by
  have htarget := r.identify_target fresh
  refine ⟨_, handedOn_plan (s.rulesOn disk) fresh r, ?_, ?_⟩
  · intro e he
    rw [handle_events] at he
    rw [← htarget]
    exact answer_hands network (s.siteOn disk) (s.rulesOn disk) (r.identify fresh) e he
  · intro hooks hsame
    rw [← htarget] at hsame
    have hrun := answer_of_sameFor network (s.siteOn disk) (s.rulesOn disk) (r.identify fresh) hsame
    rw [handle_fst, handle_fst]
    exact congrArg (· >>= _) hrun

/-- A server that sends every request to a script, which declines. -/
def declining : Server where
  rules := .fixed [⟨.rewrite, .textStart, "/test/run.js?x=1"⟩]
  fixtures := ⟨"views", ["data"]⟩
  hooks := { Hooks.default with script := some fun _ _ => none }

/-- A disk with the script. -/
def scriptDisk : Disk := (Disk.empty ["srv"]).write "data/run.js" []

/-- A request with a body, and with two fields of one name around another. -/
def posted : Request :=
  ⟨"POST", ⟨none, "", "/a", some "y=2"⟩,
    [⟨"x-tag", [49]⟩, ⟨"accept", []⟩, ⟨"x-tag", [50]⟩], [0, 255], none⟩

/-- The request as it comes to the script. -/
def postedToScript : Request :=
  ⟨"POST", ⟨none, "", "/test/run.js", some "x=1"⟩,
    [⟨"x-tag", [49]⟩, ⟨"accept", []⟩, ⟨"x-tag", [50]⟩, ⟨"x-request-id", [55]⟩], [0, 255],
    some ⟨none, "", "/a", some "y=2"⟩⟩

/-- A request that was rewritten reaches the script and, when that declines, the application. -/
theorem client_request_is_handed_on_declined :
    (∀ e ∈ [Event.scripted "data/run.js" postedToScript, .delegated postedToScript],
      e ∈ (declining.handle (fun _ => .error (.timeout 0)) scriptDisk [55] posted).1.events) ∧
    HandedOn [⟨.rewrite, .textStart, "/test/run.js?x=1"⟩] [55] posted postedToScript := by
  have hparse : rewriteTarget? (Template.expand "/test/run.js?x=1" [some ""]) =
      some ⟨none, "", "/test/run.js", some "x=1"⟩ := by decide +kernel
  have hplan : RuleSet.plan [⟨.rewrite, .textStart, "/test/run.js?x=1"⟩] posted.target =
      .rewrite ⟨none, "", "/test/run.js", some "x=1"⟩ := by
    rw [RuleSet.plan_textStart]
    simp only [Dispatch.ofMatch, Match.target, hparse]
  have hserved : ∀ e ∈ [Event.scripted "data/run.js" postedToScript, .delegated postedToScript],
      e ∈ ((declining.siteOn scriptDisk).serve postedToScript).events := by decide +kernel
  have hevents : ∀ e ∈ [Event.scripted "data/run.js" postedToScript, .delegated postedToScript],
      e ∈ (declining.handle (fun _ => .error (.timeout 0)) scriptDisk [55] posted).1.events := by
    intro e he
    rw [handle_events, answer_events, List.mem_append]
    right
    change e ∈ (carryOut _ _ ((RuleSet.plan _ posted.target).apply _)).events
    rw [show declining.rulesOn scriptDisk = [⟨.rewrite, .textStart, "/test/run.js?x=1"⟩] from rfl,
      hplan]
    exact hserved e he
  obtain ⟨q, hq, hall, -⟩ := client_request_is_handed_on (fun _ => .error (.timeout 0)) scriptDisk
    [55] declining posted
  have hsame := hall _ (hevents (.delegated postedToScript) (by simp)) postedToScript rfl
  rw [← hsame] at hq
  exact ⟨hevents, hq⟩

end Server

end PagePreview
