import Mathlib.Data.List.TakeWhile
import PagePreview.Proofs.ArrivalTarget
import PagePreview.Proofs.AuthorityText
import PagePreview.Proofs.HttpUrl
import PagePreview.Proofs.Outcomes
import PagePreview.Proxy.Forwarding

/-!
# Targets that requests can be sent to

Two grammars meet where a request is forwarded: the target of a rule is read as a URL, and what is
sent is a request target. Paths and queries fit, also a query that is taken over from the request.
But a domain name may hold a few characters that an authority may not, and a request target has a
greatest length. Such a target is planned nevertheless, and forwarding to it fails.
-/

namespace PagePreview

namespace RequestTarget

/-! ## Paths and queries -/

/-- What may stand in a query. -/
def QueryWritten (q : String) : Prop := ∀ c ∈ q.toList, isQueryChar c ∧ c ≠ '#'

instance (q : String) : Decidable (QueryWritten q) :=
  List.decidableBAll (fun c => isQueryChar c ∧ c ≠ '#') q.toList

/-- A query that is read has the characters of one. -/
theorem queryWritten_of_takePath {cs : List Char} {path q : String}
    (h : takePath cs = .ok (path, some q)) : QueryWritten q := by
  revert h
  fun_cases takePath cs with
  | case1 => exact nofun
  | case2 _ _ rest _ hall =>
    intro h
    cases h
    intro c hc
    rw [String.toList_ofList] at hc
    refine ⟨List.all_eq_true.mp hall c hc, ?_⟩
    simpa using List.all_eq_true.mp List.all_takeWhile c hc
  | case3 => exact nofun
  | case4 => exact nofun

/-- So has the query of a URL. -/
theorem queryWritten_of_parseFull {cs : List Char} {t : RequestTarget}
    (h : parseFull cs = .ok t) {q : String} (hq : t.query = some q) : QueryWritten q := by
  unfold parseFull at h
  obtain ⟨found, _, h⟩ := exists_of_bind_ok h
  rcases found with _ | ⟨scheme, _ | ⟨c, rest⟩⟩
  · obtain ⟨⟨authority, after⟩, _, h⟩ := exists_of_bind_ok h
    dsimp only at h
    split at h
    · cases h
      cases hq
    · cases h
  · cases h
  · obtain ⟨⟨authority, after⟩, _, h⟩ := exists_of_bind_ok h
    dsimp only at h
    split at h
    · cases h
    obtain ⟨⟨path, query⟩, hpath, h⟩ := exists_of_bind_ok h
    cases h
    cases hq
    exact queryWritten_of_takePath hpath

/-- A target that is read has a written query, if any. -/
theorem queryWritten_of_parse {text : String} {t : RequestTarget} (h : parse text = .ok t)
    {q : String} (hq : t.query = some q) : QueryWritten q := by
  revert h
  fun_cases parse text with
  | case1 => exact nofun
  | case2 => exact nofun
  | case3 =>
    intro h
    cases h
    cases hq
  | case4 _ rest =>
    intro h
    obtain ⟨⟨path, query⟩, hpath, rfl⟩ := exists_of_map_ok h
    cases hq
    exact queryWritten_of_takePath hpath
  | case5 => exact nofun
  | case6 => exact fun h => queryWritten_of_parseFull h hq
  | case7 => exact fun h => queryWritten_of_parseFull h hq

/-- What needs no escape in the path of a URL may stand in the path of a target. -/
theorem isPathChar_of_isUnescaped {c : Char} (h : WebUrl.IsUnescaped WebUrl.escapedInPath c) :
    isPathChar c ∧ c ≠ '?' ∧ c ≠ '#' := by
  obtain ⟨hc, hescaped⟩ := h
  revert hescaped
  exact Ascii.forall_lt (P := fun c => WebUrl.escapedInPath c = false →
    isPathChar c ∧ c ≠ '?' ∧ c ≠ '#') (by decide) hc

/-- What needs no escape in the query of a URL may stand in the query of a target. -/
theorem isQueryChar_of_isUnescaped {c : Char}
    (h : WebUrl.IsUnescaped (WebUrl.escapedInQuery true) c) : isQueryChar c ∧ c ≠ '#' := by
  obtain ⟨hc, hescaped⟩ := h
  revert hescaped
  exact Ascii.forall_lt (P := fun c => WebUrl.escapedInQuery true c = false →
    isQueryChar c ∧ c ≠ '#') (by decide) hc

/-- What may stand in a path. -/
def PathWritten (path : String) : Prop := ∀ c ∈ path.toList, isPathChar c ∧ c ≠ '?' ∧ c ≠ '#'

instance (path : String) : Decidable (PathWritten path) :=
  List.decidableBAll (fun c => isPathChar c ∧ c ≠ '?' ∧ c ≠ '#') path.toList

/-- The characters of a query with its question mark. -/
theorem toList_querySuffix (q : String) : (querySuffix (some q)).toList = '?' :: q.toList :=
  String.toList_append

/-- A query begins with its mark. -/
theorem eq_of_mem_head?_querySuffix {query : Option String} {c : Char}
    (h : c ∈ (querySuffix query).toList.head?) : c = '?' := by
  cases query with
  | none => cases h
  | some q =>
    rw [toList_querySuffix] at h
    cases h
    rfl

/-- A path ends where its query begins. -/
theorem span_path {path : String} (hpath : PathWritten path) (query : Option String) :
    (path.toList ++ (querySuffix query).toList).span (fun c => c != '?' && c != '#') =
      (path.toList, (querySuffix query).toList) := by
  have hstops : ∀ c ∈ path.toList, (c != '?' && c != '#') = true := by
    intro c hc
    obtain ⟨_, hquestion, hnumber⟩ := hpath c hc
    simp [hquestion, hnumber]
  refine Text.span_append hstops fun c hc => ?_
  rw [eq_of_mem_head?_querySuffix hc]
  rfl

/-- A path and a query that are written are read again. -/
theorem takePath_written {path : String} {query : Option String} (hpath : PathWritten path)
    (hquery : ∀ q, query = some q → QueryWritten q) :
    takePath (path.toList ++ (querySuffix query).toList) = .ok (path, query) := by
  have hchars : path.toList.all isPathChar = true :=
    List.all_eq_true.mpr fun c hc => (hpath c hc).1
  unfold takePath
  rw [span_path hpath query]
  dsimp only
  rw [hchars, Bool.not_true, if_neg Bool.false_ne_true, String.ofList_toList]
  cases query with
  | none => rfl
  | some q =>
    have hwhole : q.toList.takeWhile (· != '#') = q.toList :=
      List.takeWhile_eq_self_iff.mpr fun c hc => bne_iff_ne.mpr (hquery q rfl c hc).2
    have hqchars : q.toList.all isQueryChar = true :=
      List.all_eq_true.mpr fun c hc => (hquery q rfl c hc).1
    rw [toList_querySuffix]
    simp only [hwhole]
    rw [if_pos hqchars, String.ofList_toList]

/-! ## Paths and queries as targets -/

/-- A path and a query that are written make up a target. -/
theorem parse_written {path : String} {query : Option String}
    (hslash : ∃ rest, path.toList = '/' :: rest) (hpath : PathWritten path)
    (hquery : ∀ q, query = some q → QueryWritten q)
    (hlength : (path ++ querySuffix query).utf8ByteSize ≤ maxBytes) :
    parse (path ++ querySuffix query) = .ok ⟨none, "", path, query⟩ := by
  obtain ⟨rest, hslash⟩ := hslash
  have htake := takePath_written hpath hquery
  have htext : (path ++ querySuffix query).toList =
      '/' :: (rest ++ (querySuffix query).toList) := by
    rw [String.toList_append, hslash, List.cons_append]
  rw [hslash, List.cons_append] at htake
  unfold parse
  rw [if_neg (Nat.not_lt.mpr hlength), htext]
  change (takePath ('/' :: (rest ++ (querySuffix query).toList))).map _ = _
  rw [htake]
  rfl

/-- The path `/` with a query. -/
theorem parse_slash {q : String} (hquery : QueryWritten q)
    (hlength : ("/?" ++ q).utf8ByteSize ≤ maxBytes) :
    parse ("/?" ++ q) = .ok ⟨none, "", "/", some q⟩ := by
  have htext : "/?" ++ q = "/" ++ querySuffix (some q) := by
    unfold querySuffix
    rw [← String.append_assoc]
    rfl
  rw [htext] at hlength ⊢
  refine parse_written ⟨[], rfl⟩ (by decide) ?_ hlength
  rintro p ⟨⟩
  exact hquery

/-! ## Absolute targets -/

/-- The scheme `http` is read off the front. -/
theorem dropScheme_http (cs : List Char) :
    dropScheme ("http://".toList ++ cs) = .ok (some ("http", cs)) := by
  rfl

/-- An absolute target is read part by part. -/
theorem parse_http {text : String} {cs : List Char} (htext : text.toList = "http://".toList ++ cs)
    (hsome : cs ≠ []) (hlength : text.utf8ByteSize ≤ maxBytes) :
    parse text = (takeAuthority cs).bind fun parts =>
      if parts.1.isEmpty then .error .invalidFormat
      else (takePath parts.2).map fun found =>
        ⟨some "http", String.ofList parts.1, found.1, found.2⟩ := by
  unfold parse
  rw [if_neg (Nat.not_lt.mpr hlength), htext]
  change parseFull ("http://".toList ++ cs) = _
  unfold parseFull
  rw [dropScheme_http]
  cases cs with
  | nil => exact absurd rfl hsome
  | cons c cs =>
    simp only [bind, Except.bind]
    cases takeAuthority (c :: cs) with
    | error e => rfl
    | ok parts =>
      dsimp only
      split
      · rfl
      · cases takePath parts.2 <;> rfl

end RequestTarget

/-! ## Requests to a target -/

namespace Request

/-- What a request is turned into. -/
def turned (r : Request) (t : ProxyTarget) (uri : RequestTarget) : Outgoing :=
  ⟨r.method, uri, persistentVersion,
    Headers.set "host" (Utf8.encode t.authority) (Headers.stripHopByHop r.headers), r.body⟩

variable {t : ProxyTarget}

/-- A request is sent to a target that has an absolute form. -/
theorem prepare_of_uri_ok {uri : RequestTarget}
    (hhost : isHeaderValue (Utf8.encode t.authority)) (huri : t.uri = .ok uri) (r : Request) :
    r.prepare t = .ok (r.turned t uri) := by
  unfold prepare
  rw [huri]
  exact if_pos hhost

/-- Without an absolute form of the target no request is sent. -/
theorem prepare_of_uri_error {e : ProxyError} (huri : t.uri = .error e) (r : Request) :
    r.prepare t = .error e := by
  unfold prepare
  rw [huri]

end Request

namespace ProxyTarget

/-- What holds of every target of a proxy rule that is read. -/
structure Written (t : ProxyTarget) : Prop where
  /-- The server is named by a host, with a port or without. -/
  authority : RequestTarget.PrintedAuthority t.authority.toList
  /-- The origin is the server's. -/
  origin : t.origin = "http://" ++ t.authority
  /-- The path begins with a slash. -/
  slash : ∃ rest, t.path.toList = '/' :: rest
  /-- The path is written. -/
  path : RequestTarget.PathWritten t.path
  /-- The query is written. -/
  query : ∀ q, t.query = some q → RequestTarget.QueryWritten q

/-- What is read as a target is an `http` URL with a host, and the target has its parts. -/
theorem exists_url_of_parse {text : String} {inbound : Option String} {t : ProxyTarget}
    (h : parse text inbound = .ok t) :
    ∃ url host, WebUrl.parse? text = some url ∧ url.scheme = "http" ∧ url.host = some host ∧
      t = ⟨url.origin, WebUrl.authority host url.port, url.path.text,
        (url.query.or inbound).filter (· ≠ "")⟩ := by
  revert h
  fun_cases parse text inbound with
  | case1 => exact nofun
  | case2 => exact nofun
  | case3 => exact nofun
  | case4 url hurl hscheme host hhost =>
    intro h
    cases h
    exact ⟨url, host, hurl, not_not.mp hscheme, hhost, rfl⟩

/-- A target that is read is written, if the query that it may take over is. -/
theorem written_of_parse {text : String} {inbound : Option String} {t : ProxyTarget}
    (h : parse text inbound = .ok t)
    (hinbound : ∀ q, inbound = some q → RequestTarget.QueryWritten q) : t.Written := by
  obtain ⟨url, host, hurl, hscheme, hhost, rfl⟩ := exists_url_of_parse h
  have hwritten := WebUrl.httpWritten_of_parse? hurl hscheme
  have hprinted := hwritten.printed_of_host hhost
  constructor
  · exact RequestTarget.printedAuthority_of_authority hprinted url.port
  · exact WebUrl.origin_of_http hscheme hhost
  · exact hwritten.path.slash
  · exact fun c hc => RequestTarget.isPathChar_of_isUnescaped (hwritten.path.chars c hc)
  · intro q hq
    obtain ⟨hq, _⟩ := Option.filter_eq_some_iff.mp hq
    rcases Option.or_eq_some_iff.mp hq with hq | ⟨_, hq⟩
    · exact fun c hc => RequestTarget.isQueryChar_of_isUnescaped (hwritten.query q hq c hc)
    · exact hinbound q hq

/-- A request can be sent to a target that is short enough and names its server without stray
characters. -/
structure Sendable (t : ProxyTarget) : Prop where
  /-- The absolute target is short enough. -/
  length : (t.origin ++ t.pathAndQuery).utf8ByteSize ≤ RequestTarget.maxBytes
  /-- The server is named without stray characters. -/
  authority : ∀ c ∈ t.authority.toList, RequestTarget.isStray c = false

variable {t : ProxyTarget}

/-- The absolute target is read part by part, if it is short enough. -/
theorem Written.parse_full (h : t.Written)
    (hlength : (t.origin ++ t.pathAndQuery).utf8ByteSize ≤ RequestTarget.maxBytes) :
    ∃ rest, RequestTarget.takePath ('/' :: rest) = .ok (t.path, t.query) ∧
      RequestTarget.parse (t.origin ++ t.pathAndQuery) =
        (RequestTarget.takeAuthority (t.authority.toList ++ '/' :: rest)).bind fun parts =>
          if parts.1.isEmpty then .error .invalidFormat
          else (RequestTarget.takePath parts.2).map fun found =>
            ⟨some "http", String.ofList parts.1, found.1, found.2⟩ := by
  obtain ⟨rest, hslash⟩ := h.slash
  have hpath := RequestTarget.takePath_written h.path h.query
  have htext : (t.origin ++ t.pathAndQuery).toList = "http://".toList ++
      (t.authority.toList ++ (t.path.toList ++ (RequestTarget.querySuffix t.query).toList)) := by
    unfold pathAndQuery
    rw [h.origin]
    simp only [String.toList_append, List.append_assoc]
  rw [hslash, List.cons_append] at htext hpath
  exact ⟨_, hpath, RequestTarget.parse_http htext (by simp) hlength⟩

/-- A target that a request can be sent to is an absolute request target, with these parts. -/
theorem uri_of_sendable (h : t.Written) (hs : t.Sendable) :
    t.uri = .ok ⟨some "http", t.authority, t.path, t.query⟩ := by
  obtain ⟨rest, hpath, hparse⟩ := h.parse_full hs.length
  have hnamed : ¬t.authority.toList.isEmpty := by
    rw [h.authority.isEmpty_eq_false]
    exact Bool.false_ne_true
  rw [RequestTarget.takeAuthority_of_printed h.authority rest hs.authority] at hparse
  simp only [Except.bind] at hparse
  rw [if_neg hnamed, hpath, String.ofList_toList] at hparse
  unfold uri
  dsimp only
  rw [hparse]
  rfl

/-- No request can be sent to any other target. -/
theorem uri_of_not_sendable (h : t.Written) (hs : ¬t.Sendable) :
    t.uri = .error (.invalidTarget (t.origin ++ t.pathAndQuery)) := by
  have herror : ∃ e, RequestTarget.parse (t.origin ++ t.pathAndQuery) = .error e := by
    by_cases hlength : (t.origin ++ t.pathAndQuery).utf8ByteSize ≤ RequestTarget.maxBytes
    · have hstray : ∃ c ∈ t.authority.toList, RequestTarget.isStray c := by
        by_contra hnone
        refine hs ⟨hlength, fun c hc => ?_⟩
        exact Bool.eq_false_iff.mpr fun hc' => hnone ⟨c, hc, hc'⟩
      obtain ⟨rest, _, hparse⟩ := h.parse_full hlength
      rw [RequestTarget.takeAuthority_of_stray h.authority rest hstray] at hparse
      exact ⟨_, hparse⟩
    · exact ⟨.tooLong, if_pos (Nat.not_le.mp hlength)⟩
  obtain ⟨e, he⟩ := herror
  unfold uri
  dsimp only
  rw [he]

/-- The name of a server is a header value. -/
theorem isHeaderValue_of_printedAuthority {name : String}
    (h : RequestTarget.PrintedAuthority name.toList) : isHeaderValue (Utf8.encode name) := by
  have hplain : ∀ {c : Char}, Domain.IsPlain c → (String.utf8EncodeChar c).all isHeaderByte := by
    rintro c ⟨hc, hforbidden⟩
    revert hforbidden
    exact Ascii.forall_lt (P := fun c => Domain.isForbidden c.toNat = false →
      (String.utf8EncodeChar c).all isHeaderByte) (by decide) hc
  have hothers : [':', '[', ']'].all fun c => (String.utf8EncodeChar c).all isHeaderByte := by
    decide
  unfold isHeaderValue Utf8.encode
  rw [List.all_flatMap, List.all_eq_true]
  intro c hc
  rcases h.mem hc with hc | hc
  · exact hplain hc
  · exact List.all_eq_true.mp hothers c hc

/-- Every target that is read names a server that can be told its name. -/
theorem isHeaderValue_of_parse {text : String} {inbound : Option String}
    (h : parse text inbound = .ok t) : isHeaderValue (Utf8.encode t.authority) := by
  obtain ⟨url, host, hurl, hscheme, hhost, rfl⟩ := exists_url_of_parse h
  have hwritten := WebUrl.httpWritten_of_parse? hurl hscheme
  exact isHeaderValue_of_printedAuthority
    (RequestTarget.printedAuthority_of_authority (hwritten.printed_of_host hhost) url.port)

/-- The request that is sent to a target. -/
def outgoing (t : ProxyTarget) (r : Request) : Outgoing :=
  ⟨r.method, ⟨some "http", t.authority, t.path, t.query⟩, persistentVersion,
    Headers.set "host" (Utf8.encode t.authority) (Headers.stripHopByHop r.headers), r.body⟩

/-- What can be sent is sent as the request that goes out. -/
theorem prepare_of_sendable (h : t.Written) (hs : t.Sendable) (r : Request) :
    r.prepare t = .ok (t.outgoing r) :=
  Request.prepare_of_uri_ok (isHeaderValue_of_printedAuthority h.authority)
    (uri_of_sendable h hs) r

/-- What cannot be sent is refused with the target it was meant for. -/
theorem prepare_of_not_sendable (h : t.Written) (hs : ¬t.Sendable) (r : Request) :
    r.prepare t = .error (.invalidTarget (t.origin ++ t.pathAndQuery)) :=
  Request.prepare_of_uri_error (uri_of_not_sendable h hs) r

end ProxyTarget

namespace RuleSet

/-- A target that is planned for a request that was read is written. -/
theorem written_of_plan {rules : RuleSet} {text : String} {arrival : RequestTarget}
    {t : ProxyTarget} (harrival : RequestTarget.parse text = .ok arrival)
    (hplan : rules.plan arrival = .proxy t) : t.Written := by
  unfold plan at hplan
  cases hmatch : rules.resolveTarget arrival with
  | none =>
    rw [hmatch] at hplan
    cases hplan
  | some m =>
    rw [hmatch] at hplan
    dsimp only at hplan
    revert hplan
    fun_cases Dispatch.ofMatch m arrival.query with
    | case4 _ t' hparse =>
      intro hplan
      cases hplan
      exact ProxyTarget.written_of_parse hparse fun q hq =>
        RequestTarget.queryWritten_of_parse harrival hq
    | _ => exact nofun

/-- The server cannot be asked with a query that leaves no room for its name. -/
theorem uri_ownServer_of_long {q : String} (h : RequestTarget.maxBytes < 20 + q.utf8ByteSize) :
    (ownServer (some q)).uri = .error (.invalidTarget ("http://[::1]:3000/d?" ++ q)) := by
  have htext : (ownServer (some q)).origin ++ (ownServer (some q)).pathAndQuery =
      "http://[::1]:3000/d?" ++ q := by
    apply String.toList_injective
    simp only [ownServer, ProxyTarget.pathAndQuery, RequestTarget.querySuffix,
      String.toList_append]
    rfl
  have hparse : RequestTarget.parse ("http://[::1]:3000/d?" ++ q) = .error .tooLong := by
    refine if_pos ?_
    rwa [String.utf8ByteSize_append]
  unfold ProxyTarget.uri
  rw [htext]
  dsimp only
  rw [hparse]

/-- The target of a proxy match is planned if it is an `http` URL, whether or not a request can be
sent to it; otherwise the request goes on unchanged. To a target that is too long, or that names its
server with a quotation mark, a backquote or a brace, nothing can be sent, and the client is told
that it is invalid. To any other target the request is sent. -/
theorem planned_target_is_sent_to {rules : RuleSet} {text : String} {arrival : RequestTarget}
    (harrival : RequestTarget.parse text = .ok arrival) :
    (∀ m, resolveTarget rules arrival = some m → m.rule.action = .proxy →
      rules.plan arrival = match ProxyTarget.parse m.target arrival.query with
        | .ok t => .proxy t
        | .error _ => .passThrough) ∧
    (∀ t, rules.plan arrival = .proxy t →
      (t.Sendable → t.uri = .ok ⟨some "http", t.authority, t.path, t.query⟩ ∧
        ∀ (network : Network) (r : Request),
          (r.forward network t).sent = some (t.outgoing r)) ∧
      (¬t.Sendable → t.uri = .error (.invalidTarget (t.origin ++ t.pathAndQuery)) ∧
        ∀ (network : Network) (r : Request), r.forward network t =
          ⟨.ofProxyError (.invalidTarget (t.origin ++ t.pathAndQuery)), none, false⟩)) := by
  constructor
  · intro m hm haction
    have hplan : rules.plan arrival = .ofMatch m arrival.query := by
      unfold plan
      rw [hm]
    rw [hplan]
    unfold Dispatch.ofMatch
    cases ProxyTarget.parse m.target arrival.query with
    | ok t => simp only [haction]
    | error e => simp only [haction]
  · intro t hplan
    have hwritten := written_of_plan harrival hplan
    constructor
    · intro hs
      refine ⟨ProxyTarget.uri_of_sendable hwritten hs, fun network r => ?_⟩
      unfold Request.forward
      rw [ProxyTarget.prepare_of_sendable hwritten hs]
      dsimp only
      cases network (t.outgoing r) <;> rfl
    · intro hs
      refine ⟨ProxyTarget.uri_of_not_sendable hwritten hs, fun network r => ?_⟩
      unfold Request.forward
      rw [ProxyTarget.prepare_of_not_sendable hwritten hs]

/-- A request with a short query is sent to the server that is planned for it. -/
theorem planned_target_is_sent_to_withQuery :
    RequestTarget.parse ("/?" ++ "x=1") = .ok ⟨none, "", "/", some "x=1"⟩ ∧
    toOwnServer.plan ⟨none, "", "/", some "x=1"⟩ = .proxy (ownServer (some "x=1")) ∧
    (ownServer (some "x=1")).Sendable ∧
    ∀ (network : Network) (r : Request),
      (r.forward network (ownServer (some "x=1"))).sent =
        some ((ownServer (some "x=1")).outgoing r) := by
  have hquery : RequestTarget.QueryWritten "x=1" := by decide
  have harrival := RequestTarget.parse_slash hquery (by decide +kernel)
  have hplan := plan_toOwnServer ⟨none, "", "/", some "x=1"⟩
  have hauthority : "[::1]:3000".toList.all fun c => !RequestTarget.isStray c := by decide
  have hs : (ownServer (some "x=1")).Sendable := by
    refine ⟨by decide +kernel, fun c hc => ?_⟩
    simpa using List.all_eq_true.mp hauthority c hc
  have hsent := ((planned_target_is_sent_to harrival).2 _ hplan).1 hs
  exact ⟨harrival, hplan, hs, hsent.2⟩

/-- The longest query that a request target with the path `/` has room for. -/
def longQuery : String := String.ofList (List.replicate 65532 'x')

/-- The long query has the characters of one. -/
theorem queryWritten_longQuery : RequestTarget.QueryWritten longQuery := by
  intro c hc
  unfold longQuery at hc
  rw [String.toList_ofList] at hc
  rw [List.eq_of_mem_replicate hc]
  decide

/-- The long query fills a target, all but two bytes. -/
theorem utf8ByteSize_longQuery : longQuery.utf8ByteSize = 65532 := by
  have hrepeat : ∀ n, (String.ofList (List.replicate n 'x')).utf8ByteSize = n := by
    intro n
    induction n with
    | zero => rfl
    | succ n ih =>
      rw [List.replicate_succ', String.ofList_append, String.utf8ByteSize_append, ih]
      rfl
  exact hrepeat 65532

/-- A client may ask with the longest query, but then there is no room for the name of the server
that is planned. -/
theorem planned_target_may_be_too_long :
    RequestTarget.parse ("/?" ++ longQuery) = .ok ⟨none, "", "/", some longQuery⟩ ∧
    toOwnServer.plan ⟨none, "", "/", some longQuery⟩ = .proxy (ownServer (some longQuery)) ∧
    (ownServer (some longQuery)).uri =
      .error (.invalidTarget ("http://[::1]:3000/d?" ++ longQuery)) := by
  have hlength := utf8ByteSize_longQuery
  have hsome : longQuery ≠ "" := by
    intro hempty
    rw [hempty] at hlength
    cases hlength
  have hkept : (some longQuery).filter (· ≠ "") = some longQuery :=
    Option.filter_eq_some_iff.mpr ⟨rfl, decide_eq_true hsome⟩
  refine ⟨RequestTarget.parse_slash queryWritten_longQuery ?_, ?_, ?_⟩
  · rw [String.utf8ByteSize_append, hlength]
    decide +kernel
  · rw [plan_toOwnServer]
    dsimp only
    rw [hkept]
  · apply uri_ownServer_of_long
    rw [hlength]
    decide +kernel

end RuleSet

end PagePreview
