import PagePreview.Proofs.ConnectionFields
import PagePreview.Proofs.EarlierRequests

/-!
# Identifiers of requests and responses

A request is known by one identifier: the client's own, the first if there are several, or a fresh
one. Everybody who gets the request sees it, except for another server where a value of the client's
field `connection` lists it. Every response carries an identifier. Another server, the renderer, a
script or the application may have set one of its own, which is kept, unless another server lists it
in a value of its own field `connection`, and so declares that it is for this connection only. In
all other cases the response carries the identifier of the request. Only values of visible ASCII,
blanks and tabs are meant here by what lists a field.
-/

namespace PagePreview

/-- The identifiers that a message carries. -/
def Headers.identifiers (hs : Headers) : List Bytes := values requestIdName hs

/-- The identifiers with which a request goes through the server. -/
def Request.identifiers (fresh : Bytes) (r : Request) : List Bytes :=
  if r.headers.identifiers = [] then [fresh] else r.headers.identifiers

/-- The identifier by which a request is known. -/
def Request.identifier (fresh : Bytes) (r : Request) : Bytes :=
  r.headers.identifiers.head?.getD fresh

namespace Headers

/-- The identifiers are declared to be for one connection only: a value of `connection` that is made
of visible ASCII, blanks and tabs lists their name. -/
def WithholdsIdentifiers (hs : Headers) : Prop :=
  ∃ value ∈ values "connection" hs, AllVisible value ∧ Lists value requestIdName

variable {hs : Headers}

/-- Withholding can be found out by reading the field. -/
theorem withholdsIdentifiers_iff : hs.WithholdsIdentifiers ↔ requestIdName ∈ listedNames hs :=
  mem_listedNames_iff.symm

instance (hs : Headers) : Decidable hs.WithholdsIdentifiers :=
  decidable_of_iff _ withholdsIdentifiers_iff.symm

/-- Identifiers that are withheld do not outlast the connection. -/
theorem identifiers_stripHopByHop_of_withholds (h : hs.WithholdsIdentifiers) :
    (stripHopByHop hs).identifiers = [] := values_stripHopByHop_of_isDropped (.inr h)

/-- Otherwise they do. -/
theorem identifiers_stripHopByHop_of_not_withholds (h : ¬hs.WithholdsIdentifiers) :
    (stripHopByHop hs).identifiers = hs.identifiers := by
  have halways : requestIdName ∉ hopByHop := by decide
  exact values_stripHopByHop_of_not_isDropped (not_or.mpr ⟨halways, h⟩)

end Headers

/-! ## Identifiers on the way -/

namespace Request

variable (fresh : Bytes) (r : Request)

/-- An identified request has the identifiers that it came with, or the new one. -/
theorem identifiers_identify : (r.identify fresh).headers.identifiers = r.identifiers fresh := by
  have hvalues := r.values_identify fresh requestIdName
  simp only [true_and] at hvalues
  exact hvalues

/-- The first of them is its identifier. -/
theorem head?_identifiers : (r.identifiers fresh).head? = some (r.identifier fresh) := by
  unfold identifiers identifier
  cases r.headers.identifiers with
  | nil => rfl
  | cons id rest => rfl

/-- It is what the first field of the name holds. -/
theorem first?_identify :
    Headers.first? requestIdName (r.identify fresh).headers = some (r.identifier fresh) := by
  rw [Headers.first?_eq_head?]
  change (r.identify fresh).headers.identifiers.head? = _
  rw [identifiers_identify, head?_identifiers]

/-- A fresh identifier changes nothing about what is withheld. -/
theorem withholdsIdentifiers_identify :
    (r.identify fresh).headers.WithholdsIdentifiers ↔ r.headers.WithholdsIdentifiers := by
  have hother : ¬("connection" = requestIdName) := by decide
  unfold Headers.WithholdsIdentifiers
  rw [values_identify, if_neg fun h => hother h.1]

variable {r} {target : ProxyTarget} {out : Outgoing}

/-- Another server sees the identifiers that outlast the connection to the client. -/
theorem identifiers_prepare (h : r.prepare target = .ok out) :
    out.headers.identifiers = (Headers.stripHopByHop r.headers).identifiers := by
  have hother : requestIdName ≠ "host" := by decide
  unfold prepare at h
  cases huri : target.uri with
  | error e =>
    rw [huri] at h
    cases h
  | ok uri =>
    rw [huri] at h
    dsimp only at h
    by_cases hhost : isHeaderValue (Utf8.encode target.authority)
    · rw [if_pos hhost] at h
      cases h
      exact Headers.values_set hother _
    · rw [if_neg hhost] at h
      cases h

end Request

namespace Response

variable (x : Response)

/-- A client sees the identifiers that outlast the connection to another server. -/
theorem identifiers_relayed (target : ProxyTarget) (host : Option String) :
    (x.relayed target host).headers.identifiers =
      (Headers.stripHopByHop x.headers).identifiers := by
  have hother : requestIdName ≠ "location" := by decide
  unfold relayed
  dsimp only
  cases clientLocation? x.status (Headers.stripHopByHop x.headers) target host with
  | none => rfl
  | some location => exact Headers.values_set hother _

/-- An answer without a body keeps its fields. -/
theorem headers_shapeConnect (method : String) : (x.shapeConnect method).headers = x.headers := by
  unfold shapeConnect
  split <;> rfl

/-- A response keeps its own identifiers, and otherwise gets that of the request. -/
theorem identifiers_propagate (id : Bytes) :
    (x.propagate (some id)).headers.identifiers =
      if x.headers.identifiers = [] then [id] else x.headers.identifiers := by
  unfold propagate
  cases hfirst : Headers.first? requestIdName x.headers with
  | none =>
    have hnone := Headers.values_eq_nil_iff.mpr hfirst
    have happend := Headers.values_append requestIdName x.headers [⟨requestIdName, id⟩]
    unfold Headers.identifiers
    rw [if_pos hnone]
    dsimp only
    rw [happend, hnone]
    simp [Headers.values]
  | some own =>
    have hown : x.headers.identifiers ≠ [] := by
      intro hnil
      rw [Headers.values_eq_nil_iff.mp hnil] at hfirst
      cases hfirst
    rw [if_neg hown]

/-- An answer with a text has no identifier. -/
theorem identifiers_typed (status : Nat) (mediaType : String) (body : Bytes) :
    (typed status mediaType body).headers.identifiers = [] := by
  have hother : ("content-type" == requestIdName) = false := by decide
  simp [typed, Headers.identifiers, Headers.values, hother]

/-- A redirect has none. -/
theorem identifiers_seeOther (location : String) :
    (seeOther location).headers.identifiers = [] := by
  have htype : ("content-type" == requestIdName) = false := by decide
  have hlocation : ("location" == requestIdName) = false := by decide
  unfold seeOther
  dsimp only
  split
  · simp [Headers.identifiers, Headers.values, htype, hlocation]
  · rfl

end Response

namespace Site

variable (site : Site)

/-- The length that is added to an answer is no identifier. -/
theorem identifiers_shapeInner (method : String) (x : Response) :
    (shapeInner method x).headers.identifiers = x.headers.identifiers := by
  have hother : ("content-length" == requestIdName) = false := by decide
  unfold shapeInner
  split
  · rfl
  · dsimp only
    split
    · rfl
    · simp [Headers.identifiers, Headers.values, hother]

/-- A fixture that is sent has none. -/
theorem identifiers_sendFixture (file : String) :
    (site.sendFixture file).value.headers.identifiers = [] := by
  have htype : ("content-type" == requestIdName) = false := by decide
  have hlength : ("content-length" == requestIdName) = false := by decide
  unfold sendFixture
  rw [Traced.value_bind]
  split
  · simp [fixtureResponse, Headers.identifiers, Headers.values, htype, hlength]
  · exact Response.identifiers_typed _ _ _

/-- A rendered page has the identifiers of the renderer. -/
theorem renderPage_of_rendered {page : PageRef} {data : Json} {y : Response}
    (h : site.hooks.render page.templateName data = some y) :
    (site.renderPage page data).value = y := by
  unfold renderPage
  dsimp only
  rw [Traced.value_bind, h]
  rfl

/-- A page that cannot be rendered has none. -/
theorem identifiers_renderPage_of_none {page : PageRef} {data : Json}
    (h : site.hooks.render page.templateName data = none) :
    (site.renderPage page data).value.headers.identifiers = [] := by
  unfold renderPage
  dsimp only
  rw [Traced.value_bind, h]
  exact Response.identifiers_typed _ _ _

end Site

namespace Server

/-! ## Who sets identifiers -/

/-- The identifiers that come from the party that answers a request. Those that another server
lists in its field `connection` do not come through. -/
inductive SetsIdentifiers (network : Network) (site : Site) (rules : RuleSet) (r : Request) :
    List Bytes → Prop
  /-- A redirect has none. -/
  | redirect {location : String} (h : rules.plan r.target = .redirect location) :
      SetsIdentifiers network site rules r []
  /-- Another server has set its own, for everybody. -/
  | upstream {target : ProxyTarget} {out : Outgoing} {y : Response}
      (h : rules.plan r.target = .proxy target) (ho : r.preserve.prepare target = .ok out)
      (hy : network out = .ok y) (hkept : ¬y.headers.WithholdsIdentifiers) :
      SetsIdentifiers network site rules r y.headers.identifiers
  /-- Another server has withheld its own. -/
  | withheld {target : ProxyTarget} {out : Outgoing} {y : Response}
      (h : rules.plan r.target = .proxy target) (ho : r.preserve.prepare target = .ok out)
      (hy : network out = .ok y) (hdropped : y.headers.WithholdsIdentifiers) :
      SetsIdentifiers network site rules r []
  /-- Another server does not answer. -/
  | unanswered {target : ProxyTarget} {out : Outgoing} {e : ProxyError}
      (h : rules.plan r.target = .proxy target) (ho : r.preserve.prepare target = .ok out)
      (he : network out = .error e) : SetsIdentifiers network site rules r []
  /-- No request can be made of it. -/
  | unsent {target : ProxyTarget} {e : ProxyError} (h : rules.plan r.target = .proxy target)
      (he : r.preserve.prepare target = .error e) : SetsIdentifiers network site rules r []
  /-- The renderer has set its own. -/
  | rendered {q : Request} {page : PageRef} {y : Response} (hq : Reaches rules r q)
      (hp : site.Previews q page)
      (hy : site.hooks.render page.templateName (site.pageData page q).value = some y) :
      SetsIdentifiers network site rules r y.headers.identifiers
  /-- The renderer fails. -/
  | notRendered {q : Request} {page : PageRef} (hq : Reaches rules r q)
      (hp : site.Previews q page)
      (hy : site.hooks.render page.templateName (site.pageData page q).value = none) :
      SetsIdentifiers network site rules r []
  /-- Data that are sent have none. -/
  | data {q : Request} {fixture : FixtureRef} {file : String} (hq : Reaches rules r q)
      (hp : ∀ page, ¬site.Previews q page) (hf : site.FixtureFile q fixture file)
      (hk : fixture.kind = .json) : SetsIdentifiers network site rules r []
  /-- A script has set its own. -/
  | script {q : Request} {file : String} {handler : String → Request → Option Response}
      {y : Response} (hq : Reaches rules r q) (hp : ∀ page, ¬site.Previews q page)
      (ha : site.AsksScript q file handler) (hy : handler file q = some y) :
      SetsIdentifiers network site rules r y.headers.identifiers
  /-- The application has set its own. -/
  | application {q : Request} {calls : List Event} {x : Response} (hq : Reaches rules r q)
      (hs : site.Serves q .application calls x) :
      SetsIdentifiers network site rules r (site.hooks.inner q).headers.identifiers

variable {network : Network} {site : Site} {rules : RuleSet} {r : Request} {ids : List Bytes}

/-- The answer of the application has the identifiers that the application has set. -/
theorem identifiers_of_application {q : Request} {calls : List Event} {x : Response}
    (h : site.Serves q .application calls x) :
    x.headers.identifiers = (site.hooks.inner q).headers.identifiers := by
  cases h with
  | declined hp ha hx => exact Site.identifiers_shapeInner q.method (site.hooks.inner q)
  | unclaimed hp hj hs => exact Site.identifiers_shapeInner q.method (site.hooks.inner q)

/-- Every answer has the identifiers of the party that gives it. -/
theorem Answers.setsIdentifiers {who : Responder} {calls : List Event} {x : Response}
    (h : Answers network site rules r who calls x) :
    SetsIdentifiers network site rules r x.headers.identifiers := by
  cases h with
  | redirected hplan =>
    rw [Response.identifiers_seeOther]
    exact .redirect hplan
  | @relayed target out y hplan ho hy =>
    rw [Response.identifiers_relayed]
    by_cases hw : y.headers.WithholdsIdentifiers
    · rw [Headers.identifiers_stripHopByHop_of_withholds hw]
      exact .withheld hplan ho hy hw
    · rw [Headers.identifiers_stripHopByHop_of_not_withholds hw]
      exact .upstream hplan ho hy hw
  | unanswered hplan ho he =>
    have hnone := Response.identifiers_typed 500 Response.jsonType
    unfold Response.ofProxyError
    rw [hnone]
    exact .unanswered hplan ho he
  | unsent hplan he =>
    have hnone := Response.identifiers_typed 500 Response.jsonType
    unfold Response.ofProxyError
    rw [hnone]
    exact .unsent hplan he
  | @served q who calls x hq hs =>
    cases hs with
    | @previewed page hp =>
      cases hy : site.hooks.render page.templateName (site.pageData page q).value with
      | some y =>
        rw [site.renderPage_of_rendered hy]
        exact .rendered hq hp hy
      | none =>
        rw [site.identifiers_renderPage_of_none hy]
        exact .notRendered hq hp hy
    | dataSent hp hf hk =>
      rw [site.identifiers_sendFixture]
      exact .data hq hp hf hk
    | scriptRun hp ha hx => exact .script hq hp ha hx
    | declined hp ha hx =>
      rw [Site.identifiers_shapeInner]
      exact .application hq (.declined hp ha hx)
    | unclaimed hp hj hs =>
      rw [Site.identifiers_shapeInner]
      exact .application hq (.unclaimed hp hj hs)

/-- The identifiers are those of an answer that comes of the request. -/
theorem SetsIdentifiers.answers (h : SetsIdentifiers network site rules r ids) :
    ∃ who calls x, Answers network site rules r who calls x ∧ x.headers.identifiers = ids := by
  cases h with
  | redirect hplan =>
    exact ⟨_, _, _, .redirected hplan, Response.identifiers_seeOther _⟩
  | upstream hplan ho hy hkept =>
    exact ⟨_, _, _, .relayed hplan ho hy, (Response.identifiers_relayed _ _ _).trans
      (Headers.identifiers_stripHopByHop_of_not_withholds hkept)⟩
  | withheld hplan ho hy hdropped =>
    exact ⟨_, _, _, .relayed hplan ho hy, (Response.identifiers_relayed _ _ _).trans
      (Headers.identifiers_stripHopByHop_of_withholds hdropped)⟩
  | unanswered hplan ho he =>
    exact ⟨_, _, _, .unanswered hplan ho he, Response.identifiers_typed _ _ _⟩
  | unsent hplan he =>
    exact ⟨_, _, _, .unsent hplan he, Response.identifiers_typed _ _ _⟩
  | rendered hq hp hy =>
    refine ⟨_, _, _, .served hq (.previewed hp), ?_⟩
    rw [site.renderPage_of_rendered hy]
  | notRendered hq hp hy =>
    exact ⟨_, _, _, .served hq (.previewed hp), site.identifiers_renderPage_of_none hy⟩
  | data hq hp hf hk =>
    exact ⟨_, _, _, .served hq (.dataSent hp hf hk), site.identifiers_sendFixture _⟩
  | script hq hp ha hy => exact ⟨_, _, _, .served hq (.scriptRun hp ha hy), rfl⟩
  | application hq hs => exact ⟨_, _, _, .served hq hs, identifiers_of_application hs⟩

/-- Only one party answers, and so sets identifiers. -/
theorem SetsIdentifiers.unique {other : List Bytes} (h : SetsIdentifiers network site rules r ids)
    (h' : SetsIdentifiers network site rules r other) : other = ids := by
  obtain ⟨who, calls, x, hx, rfl⟩ := h.answers
  obtain ⟨who', calls', x', hx', rfl⟩ := h'.answers
  rw [(hx.unique hx').2.2]

/-! ## The identifiers of a response -/

/-- A response keeps the identifiers of the party that answers, and otherwise gets that of the
request. -/
theorem identifiers_handle {disk : Disk} {fresh : Bytes} {s : Server}
    (h : SetsIdentifiers network (s.siteOn disk) (s.rulesOn disk) (r.identify fresh) ids) :
    (s.handle network disk fresh r).1.value.headers.identifiers =
      if ids = [] then [r.identifier fresh] else ids := by
  obtain ⟨who, calls, x, hanswers, -, hvalue⟩ :=
    answers_answer network (s.siteOn disk) (s.rulesOn disk) (r.identify fresh)
  have hids := h.unique hanswers.setsIdentifiers
  rw [handle_value, hvalue, Request.first?_identify, Response.identifiers_propagate,
    Response.headers_shapeConnect, hids]

/-- A request that is sent to another server is the one that the rules forward. -/
theorem Answers.prepared {who : Responder} {calls : List Event} {x : Response}
    (h : Answers network site rules r who calls x) {out : Outgoing} {succeeded : Bool}
    (he : .forwarded (some out) succeeded ∈ calls) :
    ∃ target, r.preserve.prepare target = .ok out := by
  cases h with
  | redirected hplan => cases he
  | relayed hplan ho hx =>
    cases List.mem_singleton.mp he
    exact ⟨_, ho⟩
  | unanswered hplan ho hx =>
    cases List.mem_singleton.mp he
    exact ⟨_, ho⟩
  | unsent hplan hx => cases he
  | served hq hs =>
    have hnone := List.countP_eq_zero.mp hs.counts.1 _ he
    exact absurd rfl hnone

/-- Another server sees the identifiers with which the request goes through the server, unless the
client withholds them. -/
theorem identifiers_of_forwarded {disk : Disk} {fresh : Bytes} {s : Server} {out : Outgoing}
    {succeeded : Bool}
    (he : .forwarded (some out) succeeded ∈ (s.handle network disk fresh r).1.events) :
    (r.headers.WithholdsIdentifiers → out.headers.identifiers = []) ∧
    (¬r.headers.WithholdsIdentifiers → out.headers.identifiers = r.identifiers fresh) := by
  obtain ⟨who, calls, x, hanswers, hcalls, -⟩ :=
    answers_answer network (s.siteOn disk) (s.rulesOn disk) (r.identify fresh)
  have hmem : .forwarded (some out) succeeded ∈ calls := by
    rw [handle_events] at he
    rw [← hcalls]
    exact List.mem_filter.mpr ⟨he, rfl⟩
  obtain ⟨target, hprepare⟩ := hanswers.prepared hmem
  have hsent : out.headers.identifiers =
      (Headers.stripHopByHop (r.identify fresh).headers).identifiers :=
    Request.identifiers_prepare hprepare
  rw [hsent, ← Request.withholdsIdentifiers_identify fresh, ← Request.identifiers_identify]
  exact ⟨Headers.identifiers_stripHopByHop_of_withholds,
    Headers.identifiers_stripHopByHop_of_not_withholds⟩

/-- Every response carries an identifier: what the party that answers has set, and if it has set
none, the identifier of the request, which is the client's first or a fresh one. Handlers and the
application see the client's identifiers, or the fresh one, and so does another server, unless a
value of the client's field `connection` lists this field. -/
theorem every_response_is_identified (network : Network) (disk : Disk) (fresh : Bytes) (s : Server)
    (r : Request) :
    (∃ own, (∀ ids,
        SetsIdentifiers network (s.siteOn disk) (s.rulesOn disk) (r.identify fresh) ids ↔
          ids = own) ∧
      (s.handle network disk fresh r).1.value.headers.identifiers =
        if own = [] then [r.identifier fresh] else own) ∧
    (s.handle network disk fresh r).1.value.headers.identifiers ≠ [] ∧
    (∀ e ∈ (s.handle network disk fresh r).1.events, ∀ q, e.received? = some q →
      q.headers.identifiers = r.identifiers fresh) ∧
    ∀ out succeeded, .forwarded (some out) succeeded ∈ (s.handle network disk fresh r).1.events →
      (r.headers.WithholdsIdentifiers → out.headers.identifiers = []) ∧
      (¬r.headers.WithholdsIdentifiers → out.headers.identifiers = r.identifiers fresh) := by
  obtain ⟨who, calls, x, hanswers, -, -⟩ :=
    answers_answer network (s.siteOn disk) (s.rulesOn disk) (r.identify fresh)
  have hset := hanswers.setsIdentifiers
  have hvalue := identifiers_handle hset
  refine ⟨⟨_, fun ids => ⟨hset.unique, fun hids => hids ▸ hset⟩, hvalue⟩, ?_, ?_, ?_⟩
  · rw [hvalue]
    split
    · exact List.cons_ne_nil _ _
    · assumption
  · intro e he q hq
    rw [handle_events] at he
    have hsame := answer_hands network (s.siteOn disk) (s.rulesOn disk) (r.identify fresh) e he q hq
    rw [hsame, ← r.identifiers_identify fresh]
    cases (s.rulesOn disk).plan (r.identify fresh).target <;> rfl
  · intro out succeeded he
    exact identifiers_of_forwarded he

/-- A server that forwards everything. -/
def forwarding : Server := ⟨.fixed RuleSet.toOwnServer, ⟨"views", []⟩, .default⟩

/-- A server that has no rules. -/
def ruleless : Server := ⟨.fixed [], ⟨"views", []⟩, .default⟩

/-- A request with two identifiers, which are for the connection only. -/
def twiceIdentified : Request :=
  ⟨"GET", ⟨none, "", "/a", none⟩, [⟨"x-request-id", [49]⟩, ⟨"x-request-id", [50]⟩,
    ⟨"connection", Utf8.encode "close, X-Request-Id"⟩], [], none⟩

/-- A request without an identifier. -/
def unidentified : Request := ⟨"GET", ⟨none, "", "/a", none⟩, [], [], none⟩

/-- A request with one identifier. -/
def identified : Request := ⟨"GET", ⟨none, "", "/a", none⟩, [⟨"x-request-id", [99]⟩], [], none⟩

/-- A reply whose identifier is for the connection only. -/
def withheld : Response :=
  ⟨200, [⟨"connection", Utf8.encode "x-request-id"⟩, ⟨"x-request-id", [117]⟩], []⟩

/-- A server that forwards everything sends a request without a query, whatever the reply. -/
theorem exists_forwarded {r : Request} (hr : r.target.query = none) (reply : Response)
    (fresh : Bytes) :
    ∃ out, .forwarded (some out) true ∈
        (forwarding.handle (fun _ => .ok reply) (.empty ["srv"]) fresh r).1.events ∧
      ∃ target, (forwarding.rulesOn (.empty ["srv"])).plan (r.identify fresh).target =
        .proxy target ∧ (r.identify fresh).preserve.prepare target = .ok out := by
  have hsendable : (Request.prepare unidentified (RuleSet.ownServer none)).toOption.isSome := by
    decide +kernel
  have hplan := RuleSet.plan_toOwnServer (r.identify fresh).target
  rw [Request.identify_target, hr, Option.filter_none] at hplan
  have hrules : forwarding.rulesOn (.empty ["srv"]) = RuleSet.toOwnServer := rfl
  rw [hrules]
  cases ho : (r.identify fresh).preserve.prepare (RuleSet.ownServer none) with
  | error e =>
    rw [Request.prepare_error_of ho] at hsendable
    cases hsendable
  | ok out =>
    refine ⟨out, ?_, RuleSet.ownServer none, ?_, ho⟩
    · rw [handle_events, answer_events, hrules, Request.identify_target, hplan]
      apply List.mem_append_right
      unfold carryOut Request.forward Dispatch.apply
      dsimp only
      rw [ho]
      exact List.mem_cons_self
    · rw [Request.identify_target, hplan]

/-- Another server gets no identifier if the client has listed the field, but the response has the
first of the client's. The application gets a fresh one where the client has sent none. -/
theorem every_response_is_identified_listed :
    (∃ out, .forwarded (some out) true ∈ (forwarding.handle (fun _ => .ok (.bare 204))
        (.empty ["srv"]) [102] twiceIdentified).1.events ∧
      out.headers.identifiers = []) ∧
    (forwarding.handle (fun _ => .ok (.bare 204)) (.empty ["srv"]) [102]
      twiceIdentified).1.value.headers.identifiers = [[49]] ∧
    ∃ q, .delegated q ∈ (ruleless.handle (fun _ => .ok (.bare 204)) (.empty ["srv"]) [102]
        unidentified).1.events ∧
      q.headers.identifiers = [[102]] := by
  obtain ⟨out, hsent, target, hplan, ho⟩ :=
    exists_forwarded (r := twiceIdentified) rfl (.bare 204) [102]
  obtain ⟨⟨own, hown, hvalue⟩, -, -, hupstream⟩ := every_response_is_identified
    (fun _ => .ok (.bare 204)) (.empty ["srv"]) [102] forwarding twiceIdentified
  obtain ⟨-, -, hhandlers, -⟩ := every_response_is_identified
    (fun _ => .ok (.bare 204)) (.empty ["srv"]) [102] ruleless unidentified
  have hwithholds : twiceIdentified.headers.WithholdsIdentifiers := by decide +kernel
  have hkept : ¬(Response.bare 204).headers.WithholdsIdentifiers := by decide +kernel
  have hdelegated : .delegated (unidentified.identify [102]) ∈
      ((ruleless.siteOn (.empty ["srv"])).serve (unidentified.identify [102])).events := by
    decide +kernel
  refine ⟨⟨out, hsent, ?_⟩, ?_, ?_⟩
  · exact (hupstream out true hsent).1 hwithholds
  · rw [hvalue, ← (hown _).mp (.upstream hplan ho rfl hkept)]
    decide +kernel
  · have hevent : .delegated (unidentified.identify [102]) ∈ (ruleless.handle
        (fun _ => .ok (.bare 204)) (.empty ["srv"]) [102] unidentified).1.events := by
      rw [handle_events, answer_events]
      exact List.mem_append_right _ hdelegated
    refine ⟨_, hevent, ?_⟩
    rw [hhandlers _ hevent _ rfl]
    decide +kernel

/-- Another server replies with an identifier that it lists in its field `connection`, and the
response carries the client's instead. -/
theorem listed_identifier_is_withheld :
    withheld.headers.identifiers = [[117]] ∧
    (∃ out, .forwarded (some out) true ∈
      (forwarding.handle (fun _ => .ok withheld) (.empty ["srv"]) [102] identified).1.events) ∧
    (forwarding.handle (fun _ => .ok withheld) (.empty ["srv"]) [102]
      identified).1.value.headers.identifiers = [[99]] := by
  obtain ⟨out, hsent, target, hplan, ho⟩ := exists_forwarded (r := identified) rfl withheld [102]
  have hdropped : withheld.headers.WithholdsIdentifiers := by decide +kernel
  refine ⟨by decide +kernel, ⟨out, hsent⟩, ?_⟩
  rw [identifiers_handle (.withheld hplan ho rfl hdropped)]
  decide +kernel

end Server

end PagePreview
