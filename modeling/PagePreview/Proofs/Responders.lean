import PagePreview.Proofs.Consultation
import PagePreview.Server.Basic

/-!
# Who answers a request

A request is answered by exactly one party. A redirect is answered at once, and a forwarded request
by the transport, with nobody else involved. All other requests, rewritten or not, come to the
preview first, then to the fixtures, and then to the application. For every party this module has
the exact condition under which it answers, its answer, and all calls on the way: of another
server, of a handler, of the renderer and of the application.
-/

namespace PagePreview

/-- A party that may answer a request. -/
inductive Responder where
  /-- The server itself, with a redirect. -/
  | redirect
  /-- The transport, with what another server answers, or with the reason why it does not. -/
  | transport
  /-- The preview of pages. -/
  | preview
  /-- The fixtures. -/
  | fixtures
  /-- The application. -/
  | application
  deriving DecidableEq, Repr

namespace Event

/-- Another server is asked. -/
def isUpstream : Event → Bool
  | .forwarded sent _ => sent.isSome
  | _ => false

/-- The application is asked. -/
def isDelegated : Event → Bool
  | .delegated _ => true
  | _ => false

/-- Somebody else is called: another server, the renderer, a handler or the application. -/
def isCall : Event → Bool
  | .augmented _ _ => true
  | .rendered _ => true
  | .scripted _ _ => true
  | e => e.isUpstream || e.isDelegated

/-- Asking another server is a call. -/
theorem isCall_of_isUpstream (e : Event) (h : e.isUpstream = true) : e.isCall = true := by
  cases e <;> simp_all [isUpstream, isCall]

/-- Asking the application is a call. -/
theorem isCall_of_isDelegated (e : Event) (h : e.isDelegated = true) : e.isCall = true := by
  cases e <;> simp_all [isDelegated, isCall]

end Event

namespace Traced

variable {α β : Type}

/-- All calls, in order. -/
def calls (x : Traced α) : List Event := x.events.filter Event.isCall

/-- The calls of two steps are those of the first and then those of the second. -/
theorem calls_bind (x : Traced α) (f : α → Traced β) :
    (x >>= f).calls = x.calls ++ (f x.value).calls := by
  unfold calls
  rw [events_bind, List.filter_append]

/-- Where nothing that is done is a call, there are none. -/
theorem calls_eq_nil {x : Traced α} (h : x.All fun e => e.isCall = false) : x.calls = [] := by
  unfold calls
  rw [List.filter_eq_nil_iff]
  intro e he
  rw [h e he]
  exact Bool.false_ne_true

/-- Tests are no calls. -/
theorem calls_of_tested {a : α} {events : List Event} (h : ∀ e ∈ events, ∃ path, e = .tested path) :
    (⟨a, events⟩ : Traced α).calls = [] := by
  apply calls_eq_nil
  intro e he
  obtain ⟨path, rfl⟩ := h e he
  rfl

/-- What is counted among the calls is counted among all events. -/
theorem countP_calls (x : Traced α) {p : Event → Bool}
    (h : ∀ e, p e = true → e.isCall = true) : x.calls.countP p = x.events.countP p := by
  unfold calls
  rw [List.countP_filter]
  apply List.countP_congr
  intro e _
  rw [Bool.and_eq_true]
  exact ⟨And.left, fun hp => ⟨hp, h e hp⟩⟩

end Traced

namespace Site

open Traced

variable (site : Site)

/-! ## The calls of the stages -/

/-- The runs of data scripts for a page: at most one. -/
def dataScriptRuns (page : PageRef) (r : Request) : List Event :=
  match site.hooks.pageData, site.dataFile? page.scriptName with
  | some _, some file => [.augmented file r]
  | _, _ => []

/-- Looking for a data file calls nobody. -/
theorem findData_calls (name : String) : (site.findData name).calls = [] := by
  apply calls_eq_nil
  refine (findData_all site name).mono ?_
  rintro e ⟨hs, hd⟩
  rfl

/-- Reading the data of a page calls nobody. -/
theorem pageFixture_calls (page : PageRef) : (site.pageFixture page).calls = [] := by
  unfold pageFixture
  rw [calls_bind, findData_calls, List.nil_append]
  split <;> rfl

/-- For the data of a page, nobody but its data script is called. -/
theorem pageData_calls (page : PageRef) (r : Request) :
    (site.pageData page r).calls = site.dataScriptRuns page r := by
  unfold pageData dataScriptRuns
  rw [calls_bind, pageFixture_calls, List.nil_append]
  cases site.hooks.pageData with
  | none => rfl
  | some handler =>
    dsimp only
    rw [calls_bind, findData_calls, List.nil_append, findData_value]
    cases site.dataFile? page.scriptName with
    | none => rfl
    | some file =>
      dsimp only
      rw [calls_bind]
      split <;> rfl

/-- To render a page, the renderer is called, once. -/
theorem renderPage_calls (page : PageRef) (data : Json) :
    (site.renderPage page data).calls = [.rendered page.templateName] := by
  unfold renderPage
  dsimp only
  rw [calls_bind]
  split <;> rfl

/-- A preview calls the renderer once, after the page's data script if there is one. -/
theorem preview_calls {r : Request} {page : PageRef} (h : site.Previews r page) :
    (site.preview r).calls = site.dataScriptRuns page r ++ [.rendered page.templateName] := by
  obtain ⟨path, heq⟩ := preview_eq site h
  have htest : (note (.tested path)).calls = [] := rfl
  rw [heq, calls_bind, htest, List.nil_append, calls_bind, pageData_calls, calls_bind,
    renderPage_calls]
  rfl

/-- For a fixture that exists, only a script that the application runs is called. -/
theorem script_calls {r : Request} {fixture : FixtureRef} {file : String}
    (h : site.FixtureFile r fixture file) :
    (site.script r).calls =
      if fixture.kind = .script ∧ site.hooks.script.isSome then [.scripted file r] else [] := by
  rw [script_eq site h, calls_bind, findData_calls, List.nil_append]
  unfold answerFixture
  cases fixture.kind with
  | json =>
    dsimp only
    unfold sendFixture
    rw [calls_bind, calls_bind]
    split <;> rfl
  | script =>
    cases site.hooks.script with
    | none => rfl
    | some handler => rfl

/-! ## Who of the stages answers -/

/-- The application is asked to run the script that the decoded path asks for. -/
structure AsksScript (r : Request) (file : String) (handler : String → Request → Option Response) :
    Prop where
  /-- The decoded path asks for a script, which is this file. -/
  found : ∃ fixture, site.FixtureFile r fixture file ∧ fixture.kind = .script
  /-- The application runs scripts. -/
  runs : site.hooks.script = some handler

/-- What comes of a request at the stages: who answers, after which calls, with what. -/
inductive Serves (r : Request) : Responder → List Event → Response → Prop
  /-- The decoded path names a page whose cleaned template is a file. -/
  | previewed {page : PageRef} (h : site.Previews r page) :
      Serves r .preview (site.dataScriptRuns page r ++ [.rendered page.templateName])
        (site.renderPage page (site.pageData page r).value).value
  /-- It names no such page, but data in a root of data. -/
  | dataSent {fixture : FixtureRef} {file : String} (hp : ∀ page, ¬site.Previews r page)
      (hf : site.FixtureFile r fixture file) (hk : fixture.kind = .json) :
      Serves r .fixtures [] (site.sendFixture file).value
  /-- It names no such page, but a script in a root of data, which does not decline. -/
  | scriptRun {file : String} {handler : String → Request → Option Response} {x : Response}
      (hp : ∀ page, ¬site.Previews r page) (ha : site.AsksScript r file handler)
      (hx : handler file r = some x) : Serves r .fixtures [.scripted file r] x
  /-- The script declines. -/
  | declined {file : String} {handler : String → Request → Option Response}
      (hp : ∀ page, ¬site.Previews r page) (ha : site.AsksScript r file handler)
      (hx : handler file r = none) :
      Serves r .application [.scripted file r, .delegated r]
        (shapeInner r.method (site.hooks.inner r))
  /-- Neither a page is named nor data, nor a script that the application runs. -/
  | unclaimed (hp : ∀ page, ¬site.Previews r page)
      (hj : ∀ fixture file, site.FixtureFile r fixture file → fixture.kind ≠ .json)
      (hs : ∀ file handler, ¬site.AsksScript r file handler) :
      Serves r .application [.delegated r] (shapeInner r.method (site.hooks.inner r))

variable {site} {r : Request}

/-- A request is for one page at most. -/
theorem Previews.unique {page other : PageRef} (h : site.Previews r page)
    (ho : site.Previews r other) : other = page :=
  Option.some.inj (ho.1.symm.trans h.1)

/-- A request is for one fixture at most, with one file. -/
theorem FixtureFile.unique {fixture other : FixtureRef} {file otherFile : String}
    (h : site.FixtureFile r fixture file) (ho : site.FixtureFile r other otherFile) :
    other = fixture ∧ otherFile = file := by
  obtain rfl := Option.some.inj (ho.1.symm.trans h.1)
  exact ⟨rfl, Option.some.inj (ho.2.symm.trans h.2)⟩

/-- A request asks one script at most, with one handler. -/
theorem AsksScript.unique {file otherFile : String}
    {handler other : String → Request → Option Response} (h : site.AsksScript r file handler)
    (ho : site.AsksScript r otherFile other) : otherFile = file ∧ other = handler := by
  obtain ⟨fixture, hf, -⟩ := h.found
  obtain ⟨fixture', hf', -⟩ := ho.found
  exact ⟨(hf.unique hf').2, Option.some.inj (ho.runs.symm.trans h.runs)⟩

/-- What asks for a script does not ask for data. -/
theorem AsksScript.not_json {file otherFile : String} {handler : String → Request → Option Response}
    (h : site.AsksScript r file handler) {fixture : FixtureRef}
    (hf : site.FixtureFile r fixture otherFile) : fixture.kind ≠ .json := by
  obtain ⟨script, hscript, hkind⟩ := h.found
  rw [(hscript.unique hf).1, hkind]
  exact FixtureKind.noConfusion

/-- At most one thing can come of a request. -/
theorem Serves.unique {who who' : Responder} {calls calls' : List Event} {x x' : Response}
    (h : site.Serves r who calls x) (h' : site.Serves r who' calls' x') :
    who' = who ∧ calls' = calls ∧ x' = x := by
  -- The guards exclude one another: a page comes before data, data before a script that is run.
  cases h with
  | previewed hpage =>
    cases h' with
    | previewed hpage' =>
      obtain rfl := hpage.unique hpage'
      exact ⟨rfl, rfl, rfl⟩
    | dataSent hp => exact absurd hpage (hp _)
    | scriptRun hp => exact absurd hpage (hp _)
    | declined hp => exact absurd hpage (hp _)
    | unclaimed hp => exact absurd hpage (hp _)
  | dataSent hp hf hk =>
    cases h' with
    | previewed hpage' => exact absurd hpage' (hp _)
    | dataSent _ hf' _ =>
      obtain ⟨rfl, rfl⟩ := hf.unique hf'
      exact ⟨rfl, rfl, rfl⟩
    | scriptRun _ ha' => exact absurd hk (ha'.not_json hf)
    | declined _ ha' => exact absurd hk (ha'.not_json hf)
    | unclaimed _ hj' => exact absurd hk (hj' _ _ hf)
  | scriptRun hp ha hx =>
    cases h' with
    | previewed hpage' => exact absurd hpage' (hp _)
    | dataSent _ hf' hk' => exact absurd hk' (ha.not_json hf')
    | scriptRun _ ha' hx' =>
      obtain ⟨rfl, rfl⟩ := ha.unique ha'
      exact ⟨rfl, rfl, Option.some.inj (hx'.symm.trans hx)⟩
    | declined _ ha' hx' =>
      obtain ⟨rfl, rfl⟩ := ha.unique ha'
      cases hx.symm.trans hx'
    | unclaimed _ _ hs' => exact absurd ha (hs' _ _)
  | declined hp ha hx =>
    cases h' with
    | previewed hpage' => exact absurd hpage' (hp _)
    | dataSent _ hf' hk' => exact absurd hk' (ha.not_json hf')
    | scriptRun _ ha' hx' =>
      obtain ⟨rfl, rfl⟩ := ha.unique ha'
      cases hx.symm.trans hx'
    | declined _ ha' hx' =>
      obtain ⟨rfl, rfl⟩ := ha.unique ha'
      exact ⟨rfl, rfl, rfl⟩
    | unclaimed _ _ hs' => exact absurd ha (hs' _ _)
  | unclaimed hp hj hs =>
    cases h' with
    | previewed hpage' => exact absurd hpage' (hp _)
    | dataSent _ hf' hk' => exact absurd hk' (hj _ _ hf')
    | scriptRun _ ha' => exact absurd ha' (hs _ _)
    | declined _ ha' => exact absurd ha' (hs _ _)
    | unclaimed => exact ⟨rfl, rfl, rfl⟩

variable (site r)

/-- A request for a page is served by the preview. -/
theorem serves_of_previews {page : PageRef} (h : site.Previews r page) :
    site.Serves r .preview (site.serve r).calls (site.serve r).value := by
  rw [serve_of_preview site (preview_value site h)]
  have hcalls := preview_calls site h
  unfold calls at hcalls ⊢
  rw [hcalls]
  exact .previewed h

/-- What is no page comes to the fixtures without a call. -/
theorem calls_serve_of_script {x : Response} (hp : ∀ page, ¬site.Previews r page)
    (h : (site.script r).value = some x) :
    (site.serve r).calls = (site.script r).calls ∧ (site.serve r).value = x := by
  obtain ⟨events, heq, htested⟩ := preview_passes site hp
  have hcalls := calls_of_tested (a := ()) htested
  rw [serve_of_script site (by rw [heq]) h, heq]
  unfold calls at hcalls ⊢
  rw [List.filter_append, hcalls]
  exact ⟨List.nil_append _, rfl⟩

/-- What is no fixture either comes to the application, with the calls of the fixtures before. -/
theorem calls_serve_of_neither (hp : ∀ page, ¬site.Previews r page)
    (h : (site.script r).value = none) :
    (site.serve r).calls = (site.script r).calls ++ [.delegated r] ∧
      (site.serve r).value = shapeInner r.method (site.hooks.inner r) := by
  obtain ⟨events, heq, htested⟩ := preview_passes site hp
  have hcalls := calls_of_tested (a := ()) htested
  have hinner : [Event.delegated r].filter Event.isCall = [.delegated r] := rfl
  rw [serve_of_neither site (by rw [heq]) h, heq]
  unfold calls at hcalls ⊢
  rw [List.filter_append, List.filter_append, hcalls, hinner]
  exact ⟨List.nil_append _, rfl⟩

/-- A request for a fixture of data is served by the fixtures, unless it is for a page. -/
theorem serves_of_data {fixture : FixtureRef} {file : String} (hp : ∀ page, ¬site.Previews r page)
    (hf : site.FixtureFile r fixture file) (hk : fixture.kind = .json) :
    site.Serves r .fixtures (site.serve r).calls (site.serve r).value := by
  have hcalls := script_calls site hf
  rw [hk, if_neg (by simp)] at hcalls
  obtain ⟨hserve, hvalue⟩ := calls_serve_of_script site r hp (script_value_json site hf hk)
  rw [hserve, hcalls, hvalue]
  exact .dataSent hp hf hk

/-- A request for a script is served by it or, if it declines, by the application. -/
theorem serves_of_asksScript {file : String} {handler : String → Request → Option Response}
    (hp : ∀ page, ¬site.Previews r page) (ha : site.AsksScript r file handler) :
    ∃ who, site.Serves r who (site.serve r).calls (site.serve r).value := by
  obtain ⟨fixture, hf, hk⟩ := ha.found
  have hcalls := script_calls site hf
  rw [if_pos ⟨hk, by rw [ha.runs]; rfl⟩] at hcalls
  have hanswer := script_value_script site hf hk
  rw [ha.runs, Option.bind_some] at hanswer
  cases hx : handler file r with
  | none =>
    rw [hx] at hanswer
    obtain ⟨hserve, hvalue⟩ := calls_serve_of_neither site r hp hanswer
    rw [hserve, hcalls, hvalue]
    exact ⟨.application, .declined hp ha hx⟩
  | some x =>
    rw [hx] at hanswer
    obtain ⟨hserve, hvalue⟩ := calls_serve_of_script site r hp hanswer
    rw [hserve, hcalls, hvalue]
    exact ⟨.fixtures, .scriptRun hp ha hx⟩

/-- A fixture that is neither data nor a script that is run is let pass without a call. -/
theorem script_unclaimed
    (hj : ∀ fixture file, site.FixtureFile r fixture file → fixture.kind ≠ .json)
    (hs : ∀ file handler, ¬site.AsksScript r file handler) :
    (site.script r).value = none ∧ (site.script r).calls = [] := by
  by_cases hfixture : ∃ fixture file, site.FixtureFile r fixture file
  · obtain ⟨fixture, file, hf⟩ := hfixture
    have hk : fixture.kind = .script := by
      cases hkind : fixture.kind with
      | json => exact absurd hkind (hj fixture file hf)
      | script => rfl
    have hnone : site.hooks.script = none := by
      cases hhook : site.hooks.script with
      | none => rfl
      | some handler => exact absurd ⟨⟨fixture, hf, hk⟩, hhook⟩ (hs file handler)
    constructor
    · rw [script_value_script site hf hk, hnone, Option.bind_none]
    · rw [script_calls site hf, hnone, if_neg (by simp)]
  · have hnone : ∀ fixture file, ¬site.FixtureFile r fixture file :=
      fun fixture file hf => hfixture ⟨fixture, file, hf⟩
    obtain ⟨events, heq, htested⟩ := script_passes site hnone
    rw [heq]
    exact ⟨rfl, calls_of_tested htested⟩

/-- What the stages do with a request is one of the things that can come of it. -/
theorem serves_serve : ∃ who, site.Serves r who (site.serve r).calls (site.serve r).value := by
  by_cases hpreview : ∃ page, site.Previews r page
  · obtain ⟨page, hpage⟩ := hpreview
    exact ⟨.preview, serves_of_previews site r hpage⟩
  have hp : ∀ page, ¬site.Previews r page := fun page hpage => hpreview ⟨page, hpage⟩
  by_cases hdata : ∃ fixture file, site.FixtureFile r fixture file ∧ fixture.kind = .json
  · obtain ⟨fixture, file, hf, hk⟩ := hdata
    exact ⟨.fixtures, serves_of_data site r hp hf hk⟩
  by_cases hasks : ∃ file handler, site.AsksScript r file handler
  · obtain ⟨file, handler, ha⟩ := hasks
    exact serves_of_asksScript site r hp ha
  have hj : ∀ fixture file, site.FixtureFile r fixture file → fixture.kind ≠ .json :=
    fun fixture file hf hk => hdata ⟨fixture, file, hf, hk⟩
  have hs : ∀ file handler, ¬site.AsksScript r file handler :=
    fun file handler ha => hasks ⟨file, handler, ha⟩
  obtain ⟨hvalue, hcalls⟩ := script_unclaimed site r hj hs
  obtain ⟨hserve, hinner⟩ := calls_serve_of_neither site r hp hvalue
  rw [hserve, hcalls, hinner]
  exact ⟨.application, .unclaimed hp hj hs⟩

/-- A site where a path names both a page with a template and a fixture. -/
def ambiguous : Site where
  disk := ((Disk.empty ["srv"]).write "views/test/a.json.tpl" []).write "data/page/a.json" []
  fixtures := ⟨"views", ["data"]⟩
  hooks := .default

/-- The path of both. -/
def ambiguousRequest : Request := ⟨"GET", ⟨none, "", "/test/page/a.json", none⟩, [], [], none⟩

example :
    (ambiguous.preview ambiguousRequest).value.isSome ∧
    (ambiguous.script ambiguousRequest).value.isSome ∧
    (ambiguous.serve ambiguousRequest).calls = [.rendered "test/a.json.tpl"] := by
  decide +kernel

/-- The stages ask no other server, and the application at most once, when it answers. -/
theorem Serves.counts {site : Site} {r : Request} {who : Responder} {calls : List Event}
    {x : Response} (h : site.Serves r who calls x) :
    calls.countP Event.isUpstream = 0 ∧
      calls.countP Event.isDelegated = if who = .application then 1 else 0 := by
  cases h with
  | previewed hpage =>
    unfold dataScriptRuns
    split <;> exact ⟨rfl, rfl⟩
  | dataSent => exact ⟨rfl, rfl⟩
  | scriptRun => exact ⟨rfl, rfl⟩
  | declined => exact ⟨rfl, rfl⟩
  | unclaimed => exact ⟨rfl, rfl⟩

end Site

namespace Server

open Traced

/-! ## Who answers -/

/-- The request that comes to the stages. -/
inductive Reaches (rules : RuleSet) (r : Request) : Request → Prop
  /-- The rules let it go on as it is. -/
  | unchanged (h : rules.plan r.target = .passThrough) : Reaches rules r r
  /-- The rules give it another target. -/
  | rewritten {target : RequestTarget} (h : rules.plan r.target = .rewrite target) :
      Reaches rules r { r.preserve with target }

/-- What comes of a request: who answers, after which calls, with what. -/
inductive Answers (network : Network) (site : Site) (rules : RuleSet) (r : Request) :
    Responder → List Event → Response → Prop
  /-- The rules redirect it. -/
  | redirected {location : String} (h : rules.plan r.target = .redirect location) :
      Answers network site rules r .redirect [] (.seeOther location)
  /-- The rules forward it, and the other server answers. -/
  | relayed {target : ProxyTarget} {out : Outgoing} {x : Response}
      (h : rules.plan r.target = .proxy target) (ho : r.preserve.prepare target = .ok out)
      (hx : network out = .ok x) :
      Answers network site rules r .transport [.forwarded (some out) true]
        (x.relayed target r.inboundHost)
  /-- The rules forward it, and the other server does not answer. -/
  | unanswered {target : ProxyTarget} {out : Outgoing} {e : ProxyError}
      (h : rules.plan r.target = .proxy target) (ho : r.preserve.prepare target = .ok out)
      (he : network out = .error e) :
      Answers network site rules r .transport [.forwarded (some out) false] (.ofProxyError e)
  /-- The rules forward it, but no request can be made of it. -/
  | unsent {target : ProxyTarget} {e : ProxyError} (h : rules.plan r.target = .proxy target)
      (he : r.preserve.prepare target = .error e) :
      Answers network site rules r .transport [] (.ofProxyError e)
  /-- The rules let it go on. -/
  | served {q : Request} {who : Responder} {calls : List Event} {x : Response}
      (hq : Reaches rules r q) (h : site.Serves q who calls x) :
      Answers network site rules r who calls x

variable {network : Network} {site : Site} {rules : RuleSet} {r : Request}

/-- What is redirected or forwarded does not come to the stages. -/
theorem Reaches.plan_ne {q : Request} (h : Reaches rules r q) :
    (∀ location, rules.plan r.target ≠ .redirect location) ∧
      ∀ target, rules.plan r.target ≠ .proxy target := by
  cases h with
  | unchanged h =>
    rw [h]
    exact ⟨fun _ => Dispatch.noConfusion, fun _ => Dispatch.noConfusion⟩
  | rewritten h =>
    rw [h]
    exact ⟨fun _ => Dispatch.noConfusion, fun _ => Dispatch.noConfusion⟩

/-- One request reaches the stages at most. -/
theorem Reaches.unique {q q' : Request} (h : Reaches rules r q) (h' : Reaches rules r q') :
    q' = q := by
  cases h with
  | unchanged hplan =>
    cases h' with
    | unchanged => rfl
    | rewritten hplan' => cases hplan.symm.trans hplan'
  | rewritten hplan =>
    cases h' with
    | unchanged hplan' => cases hplan.symm.trans hplan'
    | rewritten hplan' =>
      cases hplan.symm.trans hplan'
      rfl

/-- A redirect is the only answer to what the rules redirect. -/
theorem answers_of_redirect {location : String} (h : rules.plan r.target = .redirect location)
    {who : Responder} {calls : List Event} {x : Response} :
    Answers network site rules r who calls x ↔
      who = .redirect ∧ calls = [] ∧ x = .seeOther location := by
  constructor
  · intro ha
    cases ha with
    | redirected h' =>
      cases h.symm.trans h'
      exact ⟨rfl, rfl, rfl⟩
    | relayed h' => cases h.symm.trans h'
    | unanswered h' => cases h.symm.trans h'
    | unsent h' => cases h.symm.trans h'
    | served hq => exact absurd h (hq.plan_ne.1 location)
  · rintro ⟨rfl, rfl, rfl⟩
    exact .redirected h

/-- What the transport makes of a request is the only answer to what the rules forward. -/
theorem answers_of_proxy {target : ProxyTarget} (h : rules.plan r.target = .proxy target)
    {who : Responder} {calls : List Event} {x : Response} :
    Answers network site rules r who calls x ↔
      who = .transport ∧
      calls = [Event.forwarded (r.preserve.forward network target).sent
        (r.preserve.forward network target).succeeded].filter Event.isCall ∧
      x = (r.preserve.forward network target).response := by
  constructor
  · intro ha
    cases ha with
    | redirected h' => cases h.symm.trans h'
    | relayed h' ho hx =>
      cases h.symm.trans h'
      unfold Request.forward
      rw [ho]
      dsimp only
      rw [hx]
      exact ⟨rfl, rfl, rfl⟩
    | unanswered h' ho he =>
      cases h.symm.trans h'
      unfold Request.forward
      rw [ho]
      dsimp only
      rw [he]
      exact ⟨rfl, rfl, rfl⟩
    | unsent h' he =>
      cases h.symm.trans h'
      unfold Request.forward
      rw [he]
      exact ⟨rfl, rfl, rfl⟩
    | served hq => exact absurd h (hq.plan_ne.2 target)
  · rintro ⟨rfl, rfl, rfl⟩
    unfold Request.forward
    cases ho : r.preserve.prepare target with
    | error e => exact .unsent h ho
    | ok out =>
      dsimp only
      cases hx : network out with
      | ok x => exact .relayed h ho hx
      | error e => exact .unanswered h ho hx

/-- What the rules let go on is answered as the stages answer it. -/
theorem answers_of_reaches {q : Request} (hq : Reaches rules r q) {who : Responder}
    {calls : List Event} {x : Response} :
    Answers network site rules r who calls x ↔ site.Serves q who calls x := by
  constructor
  · intro ha
    cases ha with
    | served hq' hs =>
      rw [hq'.unique hq]
      exact hs
    | redirected h => exact absurd h (hq.plan_ne.1 _)
    | relayed h => exact absurd h (hq.plan_ne.2 _)
    | unanswered h => exact absurd h (hq.plan_ne.2 _)
    | unsent h => exact absurd h (hq.plan_ne.2 _)
  · exact .served hq

/-- At most one thing can come of a request. -/
theorem Answers.unique {who who' : Responder} {calls calls' : List Event} {x x' : Response}
    (h : Answers network site rules r who calls x)
    (h' : Answers network site rules r who' calls' x') :
    who' = who ∧ calls' = calls ∧ x' = x := by
  -- The decision of the rules says which of the characterisations above applies.
  have hserved : ∀ q, Reaches rules r q → who' = who ∧ calls' = calls ∧ x' = x := fun q hq =>
    ((answers_of_reaches hq).mp h).unique ((answers_of_reaches hq).mp h')
  cases hplan : rules.plan r.target with
  | passThrough => exact hserved r (.unchanged hplan)
  | rewrite target => exact hserved _ (.rewritten hplan)
  | redirect location =>
    obtain ⟨rfl, rfl, rfl⟩ := (answers_of_redirect hplan).mp h
    exact (answers_of_redirect hplan).mp h'
  | proxy target =>
    obtain ⟨rfl, rfl, rfl⟩ := (answers_of_proxy hplan).mp h
    exact (answers_of_proxy hplan).mp h'

/-- Whatever the rules decide, exactly one of the responders answers. -/
theorem answers_carryOut (network : Network) (site : Site) (rules : RuleSet) (r : Request) :
    ∃ who, Answers network site rules r who
      (carryOut network site ((rules.plan r.target).apply r)).calls
      (carryOut network site ((rules.plan r.target).apply r)).value := by
  cases hplan : rules.plan r.target with
  | passThrough =>
    obtain ⟨who, hserves⟩ := site.serves_serve r
    exact ⟨who, .served (.unchanged hplan) hserves⟩
  | rewrite target =>
    obtain ⟨who, hserves⟩ := site.serves_serve { r.preserve with target }
    exact ⟨who, .served (.rewritten hplan) hserves⟩
  | redirect location => exact ⟨.redirect, .redirected hplan⟩
  | proxy target => exact ⟨.transport, (answers_of_proxy hplan).mpr ⟨rfl, rfl, rfl⟩⟩

/-- Noting a match does nothing else. -/
theorem noteMatch_events (rules : RuleSet) (target : RequestTarget) :
    (noteMatch rules target).All fun e => ∃ action, e = .matched action := by
  unfold noteMatch
  split
  · exact all_note.mpr ⟨_, rfl⟩
  · exact all_pure _

/-- The calls for a request are those for what the rules decide. -/
theorem answer_calls (network : Network) (site : Site) (rules : RuleSet) (r : Request) :
    (answer network site rules r).calls =
      (carryOut network site ((rules.plan r.target).apply r)).calls := by
  have hmatch : (noteMatch rules r.target).calls = [] := by
    apply calls_eq_nil
    refine (noteMatch_events rules r.target).mono ?_
    rintro e ⟨action, rfl⟩
    rfl
  unfold answer
  rw [calls_bind, calls_bind, hmatch, List.nil_append]
  exact List.append_nil _

/-- What is done with a request is one of the things that can come of it. -/
theorem answers_answer (network : Network) (site : Site) (rules : RuleSet) (r : Request) :
    ∃ who calls x, Answers network site rules r who calls x ∧
      (answer network site rules r).calls = calls ∧
      (answer network site rules r).value = x.shapeConnect r.method := by
  obtain ⟨who, hanswers⟩ := answers_carryOut network site rules r
  exact ⟨who, _, _, hanswers, answer_calls network site rules r, rfl⟩

/-- First a match is noted, and then what the rules decide is carried out. -/
theorem answer_events (network : Network) (site : Site) (rules : RuleSet) (r : Request) :
    (answer network site rules r).events = (noteMatch rules r.target).events ++
      (carryOut network site ((rules.plan r.target).apply r)).events := by
  unfold answer
  rw [events_bind, events_bind, events_pure, List.append_nil]

/-- The transport depends on what the other server answers to the one request that is sent. -/
theorem forward_congr {network network' : Network} {q : Request} {target : ProxyTarget}
    (h : ∀ out, (q.forward network target).sent = some out → network' out = network out) :
    q.forward network' target = q.forward network target := by
  unfold Request.forward at h ⊢
  cases ho : q.prepare target with
  | error e => rfl
  | ok out =>
    rw [ho] at h
    dsimp only at h ⊢
    have hsame : network' out = network out := by
      apply h
      split <;> rfl
    rw [hsame]

/-- What is carried out depends on nothing but what is done on the way. -/
theorem carryOut_congr {network network' : Network} {site other : Site} {step : Step}
    (hs : site.SameShape other)
    (hn : ∀ out succeeded, .forwarded (some out) succeeded ∈ (carryOut network site step).events →
      network' out = network out)
    (h : (carryOut network site step).All (site.AgreesOn other)) :
    carryOut network' other step = carryOut network site step := by
  cases step with
  | proceed q => exact Site.serve_congr hs h
  | respond x => rfl
  | forward q target =>
    have hsame : q.forward network' target = q.forward network target := by
      apply forward_congr
      intro out hout
      apply hn out (q.forward network target).succeeded
      rw [← hout]
      exact List.mem_cons_self
    unfold carryOut
    dsimp only
    rw [hsame]

/-- A run depends on nothing but what it did. -/
theorem answer_congr {network network' : Network} {site other : Site} {rules : RuleSet}
    {r : Request} (hs : site.SameShape other)
    (hn : ∀ out succeeded, .forwarded (some out) succeeded ∈ (answer network site rules r).events →
      network' out = network out)
    (h : (answer network site rules r).All (site.AgreesOn other)) :
    answer network' other rules r = answer network site rules r := by
  rw [answer_events] at hn
  have hcarry : carryOut network' other ((rules.plan r.target).apply r) =
      carryOut network site ((rules.plan r.target).apply r) := by
    apply carryOut_congr hs
    · intro out succeeded he
      exact hn out succeeded (List.mem_append_right _ he)
    · intro e he
      apply h
      rw [answer_events]
      exact List.mem_append_right _ he
  unfold answer
  rw [hcarry]

/-- What is redirected or forwarded is not touched by the stages, whatever they work with. -/
theorem answer_aside {rules : RuleSet} {r : Request}
    (h : (∃ location, rules.plan r.target = .redirect location) ∨
      ∃ target, rules.plan r.target = .proxy target) (network : Network) (site : Site) :
    ((answer network site rules r).All fun e =>
      (∃ action, e = .matched action) ∨ ∃ sent succeeded, e = .forwarded sent succeeded) ∧
    ∀ other, answer network other rules r = answer network site rules r := by
  have hmatch := (noteMatch_events rules r.target).mono fun e he =>
    Or.inl (b := ∃ sent succeeded, e = .forwarded sent succeeded) he
  rcases h with ⟨location, hplan⟩ | ⟨target, hplan⟩
  · unfold answer
    rw [hplan]
    exact ⟨all_bind.mpr ⟨hmatch, all_bind.mpr ⟨all_pure _, all_pure _⟩⟩, fun _ => rfl⟩
  · have hforward : (carryOut network site (.forward r.preserve target)).All fun e =>
        (∃ action, e = .matched action) ∨ ∃ sent succeeded, e = .forwarded sent succeeded :=
      all_bind.mpr ⟨all_note.mpr (Or.inr ⟨_, _, rfl⟩), all_pure _⟩
    unfold answer
    rw [hplan]
    exact ⟨all_bind.mpr ⟨hmatch, all_bind.mpr ⟨hforward, all_pure _⟩⟩, fun _ => rfl⟩

/-! ## One answer to a request -/

/-- The stages of a server over some files. -/
def siteOn (disk : Disk) (s : Server) : Site := ⟨disk, s.fixtures, s.hooks⟩

/-- The rules that a server goes by for a request. -/
def rulesOn (disk : Disk) (s : Server) : RuleSet := (s.rules.forRequest disk).published

/-- What a server does is what the answer to the identified request takes. -/
theorem handle_events (network : Network) (disk : Disk) (fresh : Bytes) (s : Server) (r : Request) :
    (s.handle network disk fresh r).1.events =
      (answer network (s.siteOn disk) (s.rulesOn disk) (r.identify fresh)).events :=
  List.append_nil _

/-- A request is handled by answering it, with an identifier, under the rules in force. -/
theorem handle_fst (network : Network) (disk : Disk) (fresh : Bytes) (s : Server) (r : Request) :
    (s.handle network disk fresh r).1 =
      (answer network (s.siteOn disk) (s.rulesOn disk) (r.identify fresh) >>= fun x =>
        Pure.pure (x.propagate (Headers.first? requestIdName (r.identify fresh).headers))) := rfl

/-- What a server answers is the answer to the identified request, with its identifier. -/
theorem handle_value (network : Network) (disk : Disk) (fresh : Bytes) (s : Server) (r : Request) :
    (s.handle network disk fresh r).1.value =
      (answer network (s.siteOn disk) (s.rulesOn disk) (r.identify fresh)).value.propagate
        (Headers.first? requestIdName (r.identify fresh).headers) := rfl

/-- A request to another server has the target that the rules forward to. -/
theorem uri_of_prepare {r : Request} {target : ProxyTarget} {out : Outgoing}
    (h : r.prepare target = .ok out) : target.uri = .ok out.uri := by
  unfold Request.prepare at h
  cases huri : target.uri with
  | error e =>
    rw [huri] at h
    cases h
  | ok uri =>
    rw [huri] at h
    dsimp only at h
    split at h
    · cases h
      rfl
    · cases h

/-- Another server is asked at most once, and only where the rules forward to a target that is
valid; the application is asked once if it answers, and otherwise not at all. -/
theorem Answers.counts {network : Network} {site : Site} {rules : RuleSet} {r : Request}
    {who : Responder} {calls : List Event} {x : Response}
    (h : Answers network site rules r who calls x) :
    calls.countP Event.isUpstream ≤ 1 ∧
    (∀ out succeeded, .forwarded (some out) succeeded ∈ calls →
      ∃ target, rules.plan r.target = .proxy target ∧ target.uri = .ok out.uri) ∧
    calls.countP Event.isDelegated = if who = .application then 1 else 0 := by
  cases h with
  | redirected hplan => exact ⟨Nat.zero_le _, fun _ _ he => absurd he List.not_mem_nil, rfl⟩
  | relayed hplan ho hx =>
    refine ⟨Nat.le_refl _, ?_, rfl⟩
    intro out succeeded he
    cases List.mem_singleton.mp he
    exact ⟨_, hplan, uri_of_prepare ho⟩
  | unanswered hplan ho he =>
    refine ⟨Nat.le_refl _, ?_, rfl⟩
    intro out succeeded he
    cases List.mem_singleton.mp he
    exact ⟨_, hplan, uri_of_prepare ho⟩
  | unsent hplan he => exact ⟨Nat.zero_le _, fun _ _ he => absurd he List.not_mem_nil, rfl⟩
  | served hq hs =>
    obtain ⟨hnone, hinner⟩ := hs.counts
    refine ⟨?_, ?_, hinner⟩
    · rw [hnone]
      exact Nat.zero_le _
    · intro out succeeded he
      exact absurd rfl (List.countP_eq_zero.mp hnone _ he)

/-- A run that answers a request by one party. -/
structure AnsweredBy (network : Network) (site : Site) (rules : RuleSet) (r : Request)
    (run : Traced Response) (who : Responder) (calls : List Event) (x : Response) : Prop where
  /-- This party answers, after these calls and with this response, and no other can. -/
  only : ∀ who' calls' x', Answers network site rules r who' calls' x' ↔
    who' = who ∧ calls' = calls ∧ x' = x
  /-- These calls are made, in this order, and no others. -/
  calls_eq : run.calls = calls
  /-- The response is sent, with the identifier of the request. -/
  value_eq : run.value =
    (x.shapeConnect r.method).propagate (Headers.first? requestIdName r.headers)
  /-- The stages do not touch what is redirected or forwarded, whatever they work with. -/
  aside : (∃ location, rules.plan r.target = .redirect location) ∨
      (∃ target, rules.plan r.target = .proxy target) →
    (∀ e ∈ run.events,
      (∃ action, e = .matched action) ∨ ∃ sent succeeded, e = .forwarded sent succeeded) ∧
    ∀ other, answer network other rules r = answer network site rules r
  /-- At most one request is sent to another server. -/
  upstream_once : run.events.countP Event.isUpstream ≤ 1
  /-- A request is sent only where the rules forward to a target that is valid. -/
  upstream_valid : ∀ out succeeded, .forwarded (some out) succeeded ∈ run.events →
    ∃ target, rules.plan r.target = .proxy target ∧ target.uri = .ok out.uri
  /-- The application is asked once if it answers, and otherwise not at all. -/
  application_once : run.events.countP Event.isDelegated = if who = .application then 1 else 0
  /-- Whoever is not called has no influence. -/
  uninfluenced : ∀ (network' : Network) (other : Site), site.SameShape other →
    (∀ out succeeded, .forwarded (some out) succeeded ∈ run.events →
      network' out = network out) →
    (∀ e ∈ run.events, site.AgreesOn other e) →
    answer network' other rules r = answer network site rules r

/-- Every request is answered by exactly one party. -/
theorem exactly_one_answers (network : Network) (disk : Disk) (fresh : Bytes) (s : Server)
    (r : Request) :
    ∃ who calls x, AnsweredBy network (s.siteOn disk) (s.rulesOn disk) (r.identify fresh)
      (s.handle network disk fresh r).1 who calls x := by
  obtain ⟨who, calls, x, hanswers, hcalls, hvalue⟩ :=
    answers_answer network (s.siteOn disk) (s.rulesOn disk) (r.identify fresh)
  obtain ⟨honce, hvalid, hinner⟩ := hanswers.counts
  have hevents := handle_events network disk fresh s r
  have hrun : (s.handle network disk fresh r).1.calls = calls := by
    rw [← hcalls]
    unfold Traced.calls
    rw [hevents]
  refine ⟨who, calls, x, ?_, hrun, ?_, ?_, ?_, ?_, ?_, ?_⟩
  · intro who' calls' x'
    constructor
    · exact hanswers.unique
    · rintro ⟨rfl, rfl, rfl⟩
      exact hanswers
  · rw [handle_value, hvalue]
  · intro hplan
    rw [hevents]
    exact answer_aside hplan network (s.siteOn disk)
  · rw [← countP_calls _ Event.isCall_of_isUpstream, hrun]
    exact honce
  · intro out succeeded he
    apply hvalid out succeeded
    rw [← hrun]
    exact List.mem_filter.mpr ⟨he, rfl⟩
  · rw [← countP_calls _ Event.isCall_of_isDelegated, hrun]
    exact hinner
  · intro network' other hs hn h
    rw [hevents] at hn h
    exact answer_congr hs hn h

end Server

end PagePreview
