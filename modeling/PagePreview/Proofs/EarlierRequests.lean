import PagePreview.Proofs.ReceivedRequest
import PagePreview.Proofs.RuleGrammar

/-!
# Requests one after another

A server that reads its rules for every request publishes what it read, so a request may change the
server. But it changes nothing that a later request could notice: as long as the files stay as they
are, the rules and the stages are those of the first request. Whatever became of earlier requests,
a request is therefore answered as if it were the first, given what other servers reply to it. Only
the identifier that it is given may be another one, and an application that ignores identifiers
does not notice this either.
-/

namespace PagePreview

/-- A request with what the server does not decide while it is handled. -/
structure Visit where
  /-- The request of the client. -/
  request : Request
  /-- The identifier that it is given, if it has none. -/
  fresh : Bytes
  /-- How other servers answer. -/
  network : Network

namespace Visit

variable (v : Visit)

/-- The request with its identifier. -/
def identified : Request := v.request.identify v.fresh

/-- The identifier of the request. -/
def identifier : Option Bytes := Headers.first? requestIdName v.identified.headers

end Visit

/-- The request that is sent to another server in an event. -/
def Event.sent? : Event → Option Outgoing
  | .forwarded sent _ => sent
  | .matched _ => none
  | .tested _ => none
  | .opened _ => none
  | .augmented _ _ => none
  | .rendered _ => none
  | .scripted _ _ => none
  | .delegated _ => none

namespace Server

variable (disk : Disk) (s : Server)

/-- Handle a request: the answer, and the server afterwards. -/
def visit (v : Visit) : Traced Response × Server := s.handle v.network disk v.fresh v.request

/-- The server after some requests. -/
def after (past : List Visit) : Server := past.foldl (fun t v => (t.visit disk v).2) s

/-- What the connection of a request to another server receives, if there is one. -/
def reply? (v : Visit) : Option (Except ProxyError Response) :=
  ((s.visit disk v).1.events.findSome? Event.sent?).map v.network

/-! ## What a request leaves behind -/

/-- Two servers with the same stages and the same rules in force, whatever they have published. -/
structure SameInForce (s t : Server) : Prop where
  /-- The same stages. -/
  site : t.siteOn disk = s.siteOn disk
  /-- The same rules for a request. -/
  rules : t.rulesOn disk = s.rulesOn disk

/-- Files that are read once more hold the same rules. -/
theorem forRequest_forRequest (store : RuleStore) :
    (store.forRequest disk).forRequest disk = store.forRequest disk := by
  cases store with
  | mk files policy published => cases policy <;> rfl

/-- A server that reads its rules for every request has those that its files hold. -/
theorem rulesOn_of_perRequest (h : s.rules.policy = .perRequest) :
    s.rulesOn disk = RuleSet.load disk s.rules.files := by
  unfold rulesOn RuleStore.forRequest
  rw [h]
  rfl

/-- A request leaves the rules that it was handled by. -/
theorem published_visit (v : Visit) : (s.visit disk v).2.rules.published = s.rulesOn disk := rfl

/-- A visit leaves the rules in force as they are. -/
theorem sameInForce_visit (v : Visit) : SameInForce disk s (s.visit disk v).2 :=
  ⟨rfl, congrArg RuleStore.published (forRequest_forRequest disk s.rules)⟩

/-- So do any number of visits. -/
theorem sameInForce_after (past : List Visit) : SameInForce disk s (s.after disk past) := by
  induction past generalizing s with
  | nil => exact ⟨rfl, rfl⟩
  | cons v rest ih =>
    have hstep := sameInForce_visit disk s v
    have hrest := ih (s.visit disk v).2
    exact ⟨hrest.site.trans hstep.site, hrest.rules.trans hstep.rules⟩

variable {disk s}

/-- Servers with the same rules in force answer a visit alike. -/
theorem SameInForce.visit_fst {t : Server} (h : SameInForce disk s t) (v : Visit) :
    (t.visit disk v).1 = (s.visit disk v).1 := by
  unfold visit
  rw [handle_fst, handle_fst, h.site, h.rules]

/-- So the replies to a visit are the same. -/
theorem SameInForce.reply?_eq {t : Server} (h : SameInForce disk s t) (v : Visit) :
    t.reply? disk v = s.reply? disk v := by
  unfold reply?
  rw [h.visit_fst]

end Server

/-! ## Two requests that differ in their identifiers -/

/-- An application that does the same with two requests. -/
structure Hooks.Alike (hooks : Hooks) (q q' : Request) : Prop where
  /-- The same scripts. -/
  script : ∀ file, hooks.script.map (· file q') = hooks.script.map (· file q)
  /-- The same data scripts. -/
  pageData : ∀ file, hooks.pageData.map (· file q') = hooks.pageData.map (· file q)
  /-- The same answer in the end. -/
  inner : hooks.inner q' = hooks.inner q

/-- An application that does the same with a request that has these fields, whichever of two
identifiers it is given. -/
def Hooks.IgnoreIdentifier (hooks : Hooks) (headers : Headers) (fresh fresh' : Bytes) : Prop :=
  ∀ q : Request, q.headers = headers → hooks.Alike (q.identify fresh) (q.identify fresh')

namespace Site

/-- Two requests that the stages cannot tell apart. -/
structure Alike (site : Site) (q q' : Request) : Prop where
  /-- The same method. -/
  method : q'.method = q.method
  /-- The same target. -/
  target : q'.target = q.target
  /-- The application does the same with them. -/
  hooks : site.hooks.Alike q q'

variable {site : Site} {q q' : Request}

namespace Alike

variable (h : site.Alike q q')
include h

/-- Requests for the same target are for the same page. -/
theorem previews {page : PageRef} : site.Previews q' page ↔ site.Previews q page := by
  unfold Previews
  rw [h.target]

/-- They are for the same fixture. -/
theorem fixtureFile {fixture : FixtureRef} {file : String} :
    site.FixtureFile q' fixture file ↔ site.FixtureFile q fixture file := by
  unfold FixtureFile
  rw [h.target]

/-- They ask the same script. -/
theorem asksScript {file : String} {handler : String → Request → Option Response} :
    site.AsksScript q' file handler ↔ site.AsksScript q file handler := by
  constructor
  · rintro ⟨⟨fixture, hf, hk⟩, hruns⟩
    exact ⟨⟨fixture, h.fixtureFile.mp hf, hk⟩, hruns⟩
  · rintro ⟨⟨fixture, hf, hk⟩, hruns⟩
    exact ⟨⟨fixture, h.fixtureFile.mpr hf, hk⟩, hruns⟩

/-- The script does the same with both. -/
theorem run_script {file : String} {handler : String → Request → Option Response}
    (ha : site.AsksScript q file handler) : handler file q' = handler file q := by
  have hsame := h.hooks.script file
  rw [ha.runs] at hsame
  exact Option.some.inj hsame

/-- The data of a page is the same for both. -/
theorem pageData_value (page : PageRef) :
    (site.pageData page q').value = (site.pageData page q).value := by
  unfold pageData
  rw [Traced.value_bind, Traced.value_bind]
  cases hhandler : site.hooks.pageData with
  | none => rfl
  | some handler =>
    dsimp only
    rw [Traced.value_bind, Traced.value_bind]
    cases (site.findData page.scriptName).value with
    | none => rfl
    | some file =>
      dsimp only
      have hsame := h.hooks.pageData file
      rw [hhandler] at hsame
      have hrun : handler file q' = handler file q := Option.some.inj hsame
      rw [Traced.value_bind, Traced.value_bind, hrun]

/-- The application gives both the same answer. -/
theorem inner_value :
    shapeInner q'.method (site.hooks.inner q') = shapeInner q.method (site.hooks.inner q) := by
  rw [h.method, h.hooks.inner]

/-- The same party gives the same answer. -/
theorem serves {who : Responder} {calls : List Event} {x : Response}
    (hs : site.Serves q who calls x) : ∃ calls', site.Serves q' who calls' x := by
  cases hs with
  | previewed hpage =>
    rw [← h.pageData_value]
    exact ⟨_, .previewed (h.previews.mpr hpage)⟩
  | dataSent hp hf hk =>
    exact ⟨_, .dataSent (fun page => mt h.previews.mp (hp page)) (h.fixtureFile.mpr hf) hk⟩
  | scriptRun hp ha hx =>
    rw [← h.run_script ha] at hx
    exact ⟨_, .scriptRun (fun page => mt h.previews.mp (hp page)) (h.asksScript.mpr ha) hx⟩
  | declined hp ha hx =>
    rw [← h.run_script ha] at hx
    rw [← h.inner_value]
    exact ⟨_, .declined (fun page => mt h.previews.mp (hp page)) (h.asksScript.mpr ha) hx⟩
  | unclaimed hp hj hs =>
    rw [← h.inner_value]
    exact ⟨_, .unclaimed (fun page => mt h.previews.mp (hp page))
      (fun fixture file hf => hj fixture file (h.fixtureFile.mp hf))
      (fun file handler ha => hs file handler (h.asksScript.mp ha))⟩

/-- The stages give both the same answer. -/
theorem serve_value : (site.serve q').value = (site.serve q).value := by
  obtain ⟨who, hserves⟩ := site.serves_serve q
  obtain ⟨calls', hserves'⟩ := h.serves hserves
  obtain ⟨who', hserve⟩ := site.serves_serve q'
  exact (hserves'.unique hserve).2.2

end Alike

end Site

namespace Request

variable (fresh : Bytes) (r : Request)

/-- It does not matter whether a request gets its identifier before a rewrite or after it. -/
theorem identify_rewritten (target : RequestTarget) :
    { (r.identify fresh).preserve with target } =
      identify fresh { r.preserve with target } := by
  rw [identify_eq, identify_eq]
  rfl

/-- An identifier changes nothing about the host that is asked. -/
theorem inboundHost_identify : (r.identify fresh).inboundHost = r.inboundHost := by
  have hother : ¬("host" = requestIdName) := by decide
  unfold inboundHost
  rw [Headers.first?_eq_head?, Headers.first?_eq_head?, values_identify,
    if_neg fun h => hother h.1]

/-- What is sent is the request as it is turned to the other server. -/
theorem sent_forward (network : Network) (target : ProxyTarget) :
    (r.forward network target).sent = (r.prepare target).toOption := by
  unfold forward
  cases r.prepare target with
  | error e => rfl
  | ok out =>
    dsimp only
    split <;> rfl

variable {r} {q : Request} {target : ProxyTarget}

/-- Whether a request can be turned to another server depends on that server only. -/
theorem prepare_error_of {e : ProxyError} (h : r.prepare target = .error e) :
    q.prepare target = .error e := by
  unfold prepare at h ⊢
  cases huri : target.uri with
  | error e' =>
    rw [huri] at h
    exact h
  | ok uri =>
    rw [huri] at h
    dsimp only at h ⊢
    by_cases hhost : isHeaderValue (Utf8.encode target.authority) = true
    · rw [if_pos hhost] at h
      cases h
    · rw [if_neg hhost] at h
      rw [if_neg hhost]
      exact h

/-- The transport's answer depends on the reply and on the host that the client asked. -/
theorem forward_response_congr {network network' : Network} (hhost : q.inboundHost = r.inboundHost)
    (hreply : (q.forward network' target).sent.map network' =
      (r.forward network target).sent.map network) :
    (q.forward network' target).response = (r.forward network target).response := by
  rw [sent_forward, sent_forward] at hreply
  unfold forward
  cases ho : r.prepare target with
  | error e => rw [prepare_error_of ho]
  | ok out =>
    cases ho' : q.prepare target with
    | error e =>
      rw [prepare_error_of ho'] at ho
      cases ho
    | ok out' =>
      rw [ho, ho'] at hreply
      have hsame : network' out' = network out := Option.some.inj hreply
      dsimp only
      rw [hsame, hhost]
      split <;> rfl

end Request

namespace Server

open Traced

variable (network network' : Network) (site : Site) (rules : RuleSet)

/-- What is forwarded is the only thing that is sent to another server. -/
theorem sent_answer_of_proxy {r : Request} {target : ProxyTarget}
    (h : rules.plan r.target = .proxy target) :
    (answer network site rules r).events.findSome? Event.sent? =
      (r.preserve.forward network target).sent := by
  have hmatch : (noteMatch rules r.target).events.findSome? Event.sent? = none := by
    rw [List.findSome?_eq_none_iff]
    intro e he
    obtain ⟨action, rfl⟩ := noteMatch_events rules r.target e he
    rfl
  rw [answer_events, List.findSome?_append, hmatch, Option.none_or, h]
  change [Event.forwarded (r.preserve.forward network target).sent _].findSome? Event.sent? = _
  rw [List.findSome?_cons]
  unfold Event.sent?
  dsimp only
  cases (r.preserve.forward network target).sent with
  | none => rfl
  | some sent => rfl

/-- The answers to a request under two identifiers are the same, if the application ignores them
and other servers reply the same. -/
theorem answer_value_identify {r : Request} {fresh fresh' : Bytes}
    (hhooks : site.hooks.IgnoreIdentifier r.headers fresh fresh')
    (hreply : ((answer network' site rules (r.identify fresh')).events.findSome? Event.sent?).map
        network' =
      ((answer network site rules (r.identify fresh)).events.findSome? Event.sent?).map network) :
    (answer network' site rules (r.identify fresh')).value =
      (answer network site rules (r.identify fresh)).value := by
  have hmethod : (r.identify fresh').method = (r.identify fresh).method := by
    rw [Request.identify_method, Request.identify_method]
  have htarget : (r.identify fresh').target = (r.identify fresh).target := by
    rw [Request.identify_target, Request.identify_target]
  have hcarry : (carryOut network' site
        ((rules.plan (r.identify fresh').target).apply (r.identify fresh'))).value =
      (carryOut network site
        ((rules.plan (r.identify fresh).target).apply (r.identify fresh))).value := by
    -- Rules decide by the target, so both requests come to the same decision.
    rw [htarget]
    cases hplan : rules.plan (r.identify fresh).target with
    | passThrough => exact Site.Alike.serve_value ⟨hmethod, htarget, hhooks r rfl⟩
    | redirect location => rfl
    | rewrite target =>
      dsimp only [Dispatch.apply, carryOut]
      rw [Request.identify_rewritten, Request.identify_rewritten]
      apply Site.Alike.serve_value
      refine ⟨?_, ?_, hhooks _ rfl⟩
      · rw [Request.identify_method, Request.identify_method]
      · rw [Request.identify_target, Request.identify_target]
    | proxy target =>
      rw [sent_answer_of_proxy _ _ _ hplan, sent_answer_of_proxy _ _ _ (htarget ▸ hplan)] at hreply
      refine Request.forward_response_congr ?_ hreply
      change (r.identify fresh').inboundHost = (r.identify fresh).inboundHost
      rw [Request.inboundHost_identify, Request.inboundHost_identify]
  unfold answer
  rw [value_bind, value_bind, value_bind, value_bind, hcarry, hmethod]

/-- Whatever became of earlier requests, a request is answered as if it were the first, and the same
is done for it. If it is given another identifier, which the application ignores, and other servers
reply the same, the answer differs in the identifier only. -/
theorem earlier_requests_have_no_influence (disk : Disk) (s : Server) :
    (∀ past v, ((s.after disk past).visit disk v).1 = (s.visit disk v).1) ∧
    (∀ past v first, v.request = first.request →
      (s.after disk past).reply? disk v = s.reply? disk first →
      s.hooks.IgnoreIdentifier first.request.headers first.fresh v.fresh →
      ∃ x : Response, (s.visit disk first).1.value = x.propagate first.identifier ∧
        ((s.after disk past).visit disk v).1.value = x.propagate v.identifier) := by
  refine ⟨fun past v => (sameInForce_after disk s past).visit_fst v, ?_⟩
  intro past v first hrequest hreply hhooks
  have hafter := sameInForce_after disk s past
  rw [hafter.reply?_eq] at hreply
  rw [hafter.visit_fst]
  unfold reply? visit at hreply
  rw [handle_events, handle_events, hrequest] at hreply
  have hsame := answer_value_identify first.network v.network (s.siteOn disk) (s.rulesOn disk)
    hhooks hreply
  refine ⟨_, handle_value first.network disk first.fresh s first.request, ?_⟩
  unfold visit
  rw [handle_value, ← hsame]
  unfold Visit.identifier Visit.identified
  rw [hrequest]

/-- A server that reads a file of rules for every request. -/
def rereading : Server := ⟨.ofFiles ["a.conf"] .perRequest, ⟨"views", []⟩, .default⟩

/-- A disk with the file, which forwards everything. -/
def ruleDisk : Disk :=
  (Disk.empty ["srv"]).write "a.conf" (Utf8.encode "proxy ^ http://[::1]:3000/d")

/-- A request that is forwarded, and what comes of it. -/
def asked (fresh : Bytes) (reply : Except ProxyError Response) : Visit :=
  ⟨⟨"GET", ⟨none, "", "/a", none⟩, [], [], none⟩, fresh, fun _ => reply⟩

/-- The rules that this server reads from its file. -/
theorem rulesOn_rereading :
    rereading.rulesOn ruleDisk = [⟨.proxy, .textStart, "http://[::1]:3000/d"⟩] := by
  have htext : RuleSet.textOf? ruleDisk "a.conf" = some "proxy ^ http://[::1]:3000/d" := by
    decide +kernel
  have hline : Rule.ofLine? "proxy ^ http://[::1]:3000/d" =
      some ⟨.proxy, .textStart, "http://[::1]:3000/d"⟩ := by
    have hwords : Text.words "proxy ^ http://[::1]:3000/d" =
        ["proxy", "^", "http://[::1]:3000/d"] := by decide +kernel
    have hkeyword : Action.ofKeyword? "proxy" = some .proxy := by decide +kernel
    unfold Rule.ofLine?
    rw [hwords]
    dsimp only
    rw [hkeyword]
    exact Rule.compile_eq_some_iff.mpr ⟨rfl, rfl, rfl, fun _ => by decide +kernel⟩
  have hfiles : rereading.rules.files = ["a.conf"] := rfl
  rw [rulesOn_of_perRequest ruleDisk rereading rfl, hfiles, RuleSet.load_singleton, htext,
    Option.toList_some, RuleSet.ofSources_singleton, RuleSet.ofSource_line (by decide +kernel),
    hline]
  rfl

/-- They send every request without a query to the same target. -/
theorem plan_rereading (target : RequestTarget) (h : target.query = none) :
    (rereading.rulesOn ruleDisk).plan target =
      .proxy ⟨"http://[::1]:3000", "[::1]:3000", "/d", none⟩ := by
  have hproxy := RuleSet.plan_toOwnServer target
  rw [h] at hproxy
  rw [rulesOn_rereading]
  exact hproxy

/-- A request that is sent there is answered with what comes back. -/
theorem reply?_asked (fresh : Bytes) (reply : Except ProxyError Response) :
    rereading.reply? ruleDisk (asked fresh reply) = some reply := by
  have hprepare : (Request.prepare ⟨"GET", ⟨none, "", "/a", none⟩, [], [], none⟩
      ⟨"http://[::1]:3000", "[::1]:3000", "/d", none⟩).toOption.isSome := by decide +kernel
  have hplan := plan_rereading (Request.identify (asked fresh reply).fresh
    (asked fresh reply).request).target rfl
  unfold reply? visit
  rw [handle_events, sent_answer_of_proxy _ _ _ hplan, Request.sent_forward]
  cases ho : Request.prepare _ _ with
  | error e =>
    rw [Request.prepare_error_of ho] at hprepare
    cases hprepare
  | ok out => rfl

/-- After a request to which the other server does not reply, the rules have been published, but the
next request is answered as if it were the first. -/
theorem earlier_requests_have_no_influence_unanswered :
    rereading.reply? ruleDisk (asked [49] (.error (.timeout 1))) = some (.error (.timeout 1)) ∧
    (rereading.after ruleDisk [asked [49] (.error (.timeout 1))]).rules.published ≠
      rereading.rules.published ∧
    ∃ x : Response,
      (rereading.visit ruleDisk (asked [50] (.ok (.bare 204)))).1.value = x.propagate (some [50]) ∧
      ((rereading.after ruleDisk [asked [49] (.error (.timeout 1))]).visit ruleDisk
        (asked [51] (.ok (.bare 204)))).1.value = x.propagate (some [51]) := by
  have hreply : (rereading.after ruleDisk [asked [49] (.error (.timeout 1))]).reply? ruleDisk
      (asked [51] (.ok (.bare 204))) =
        rereading.reply? ruleDisk (asked [50] (.ok (.bare 204))) := by
    rw [(sameInForce_after ruleDisk rereading _).reply?_eq, reply?_asked, reply?_asked]
  refine ⟨reply?_asked _ _, ?_, ?_⟩
  · rw [after, List.foldl_cons, List.foldl_nil, published_visit, rulesOn_rereading]
    exact List.cons_ne_nil _ _
  · exact (earlier_requests_have_no_influence ruleDisk rereading).2
      [asked [49] (.error (.timeout 1))] (asked [51] (.ok (.bare 204)))
      (asked [50] (.ok (.bare 204))) rfl hreply fun _ _ => ⟨fun _ => rfl, fun _ => rfl, rfl⟩

end Server

end PagePreview
