import PagePreview.Proofs.FirstMatch
import PagePreview.Proofs.ForwardedRequest

/-!
# The parts of a target

A target has the parts of the URL that it was read from. Its server is named in the same way where
the connection goes to and in the host field of the request: with its port unless that is the
default one, and without user information. Its query is the URL's own, be it empty, or else that of
the request; an empty query is none. Where a request target can be made of all this, it is taken
apart again at the same places.
-/

namespace PagePreview

namespace WebUrl

/-! ## Default ports -/

/-- The default port of a scheme is left out. -/
theorem port?_ne_default {scheme : String} {cs rest : List Char} {port : Option Nat}
    (h : port? scheme cs = some (port, rest)) {n : Nat} (hport : port = some n) :
    defaultPort? scheme ≠ some n := by
  revert h
  fun_cases port? scheme cs with
  | case1 => exact nofun
  | case2 =>
    intro h
    cases h
    cases hport
  | case3 _ _ _ _ _ hkept =>
    intro h
    cases hport
    obtain ⟨hread, -⟩ := Prod.mk.inj (Option.some.inj h)
    rw [← Option.some.inj hread]
    exact (not_or.mp hkept).2

/-- It is left out also where the port is read with a host. -/
theorem hostAndPort?_ne_default {followed : Bool} {scheme : String} {cs rest : List Char}
    {host : Host} {port : Option Nat}
    (h : hostAndPort? true scheme cs followed = some (host, port, rest)) {n : Nat}
    (hport : port = some n) : defaultPort? scheme ≠ some n := by
  unfold hostAndPort? at h
  dsimp only at h
  split at h
  · cases h
  simp only [if_true, Option.bind_eq_bind, Option.bind_eq_some_iff] at h
  obtain ⟨_, -, h⟩ := h
  split at h
  · simp only [Option.bind_eq_some_iff] at h
    obtain ⟨⟨port, rest⟩, hfound, h⟩ := h
    cases h
    exact port?_ne_default hfound hport
  · cases h
    cases hport

/-- No `http` URL that is read keeps the default port. -/
theorem port_ne_of_http {url : WebUrl} {text : String} (h : parse? text = some url)
    (hscheme : url.scheme = "http") : url.port ≠ some 80 := by
  obtain ⟨cs, hcs⟩ := authorityAndPath?_of_http h hscheme
  unfold authorityAndPath? at hcs
  simp only [Option.bind_eq_bind, Option.bind_eq_some_iff] at hcs
  obtain ⟨⟨host, port, rest⟩, hfound, hcs⟩ := hcs
  cases hcs
  exact fun hport => hostAndPort?_ne_default hfound hport rfl

end WebUrl

namespace ProxyTarget

variable {t : ProxyTarget} {text : String} {inbound : Option String}

/-! ## What is read as a target -/

/-- Targets are read from `http` URLs, which all have a host. -/
theorem exists_parse_iff (text : String) (inbound : Option String) :
    (∃ t, parse text inbound = .ok t) ↔
      ∃ url, WebUrl.parse? text = some url ∧ url.scheme = "http" := by
  constructor
  · rintro ⟨t, ht⟩
    obtain ⟨url, -, hurl, hscheme, -⟩ := exists_url_of_parse ht
    exact ⟨url, hurl, hscheme⟩
  · rintro ⟨url, hurl, hscheme⟩
    obtain ⟨host, hhost, -⟩ := (WebUrl.httpWritten_of_parse? hurl hscheme).host
    cases hparse : parse text inbound with
    | ok t => exact ⟨t, rfl⟩
    | error e =>
      rcases (parse_error_iff text inbound).mp ⟨e, hparse⟩ url hurl with hother | hnone
      · exact absurd hscheme hother
      · rw [hhost] at hnone
        cases hnone

/-- A URL of another scheme is told by its scheme. -/
theorem parse_eq_unsupportedScheme_iff {scheme : String} :
    parse text inbound = .error (.unsupportedScheme scheme) ↔
      ∃ url, WebUrl.parse? text = some url ∧ url.scheme = scheme ∧ scheme ≠ "http" := by
  unfold parse
  cases hurl : WebUrl.parse? text with
  | none => simp
  | some url =>
    dsimp only
    by_cases hscheme : url.scheme = "http"
    · rw [if_neg (not_not_intro hscheme)]
      constructor
      · cases url.host <;> exact nofun
      · rintro ⟨other, hother, rfl, hne⟩
        cases hother
        exact absurd hscheme hne
    · rw [if_pos hscheme]
      constructor
      · intro h
        cases h
        exact ⟨url, rfl, rfl, hscheme⟩
      · rintro ⟨other, hother, rfl, -⟩
        cases hother
        rfl

/-- Only what is no URL at all is an invalid target. -/
theorem parse_eq_invalidTarget_iff :
    parse text inbound = .error (.invalidTarget text) ↔ WebUrl.parse? text = none := by
  constructor
  · intro h
    cases hurl : WebUrl.parse? text with
    | none => rfl
    | some url =>
      by_cases hscheme : url.scheme = "http"
      · obtain ⟨t, ht⟩ := (exists_parse_iff text inbound).mpr ⟨url, hurl, hscheme⟩
        rw [ht] at h
        cases h
      · rw [parse_eq_unsupportedScheme_iff.mpr ⟨url, hurl, rfl, hscheme⟩] at h
        cases h
  · intro h
    unfold parse
    rw [h]

/-! ## What is read from a URL -/

/-- A target with the parts of a URL, for a request with a query or without one. -/
structure PartsOf (t : ProxyTarget) (url : WebUrl) (inbound : Option String) : Prop where
  /-- The origin is the server, with the scheme. -/
  origin : t.origin = "http://" ++ t.authority
  /-- The server is the URL's host, with its port if there is one. -/
  authority : ∃ host, url.host = some host ∧ t.authority = WebUrl.authority host url.port
  /-- The default port is not given. -/
  port : url.port ≠ some 80
  /-- Nor is any user information. -/
  user : '@' ∉ t.authority.toList
  /-- The path is the URL's. -/
  path : t.path = url.path.text
  /-- It begins with a slash. -/
  slash : ∃ rest, t.path.toList = '/' :: rest
  /-- No query is empty. -/
  nonempty : t.query ≠ some ""
  /-- The URL's own query is taken, also an empty one. -/
  own : ∀ q, url.query = some q → t.query = if q = "" then none else some q
  /-- If it has none, the query of the request is taken. -/
  inbound : url.query = none → t.query = if inbound = some "" then none else inbound
  /-- What is made of the target has its parts. -/
  uri : ∀ uri, t.uri = .ok uri → uri = ⟨some "http", t.authority, t.path, t.query⟩
  /-- The host field names the server that a request is sent to. -/
  host : ∀ (r : Request) (out : Outgoing), r.prepare t = .ok out →
    Headers.values "host" out.headers = [Utf8.encode out.uri.authority]

/-- What is made of a target that is written has its parts. -/
theorem Written.uri_eq (h : t.Written) {uri : RequestTarget} (huri : t.uri = .ok uri) :
    uri = ⟨some "http", t.authority, t.path, t.query⟩ := by
  by_cases hs : t.Sendable
  · rw [uri_of_sendable h hs] at huri
    exact (Except.ok.inj huri).symm
  · rw [uri_of_not_sendable h hs] at huri
    cases huri

/-- A request names the server that it is sent to as its host. -/
theorem Written.host_eq (h : t.Written) {r : Request} {out : Outgoing}
    (hout : r.prepare t = .ok out) :
    Headers.values "host" out.headers = [Utf8.encode out.uri.authority] := by
  cases huri : t.uri with
  | error e =>
    rw [Request.prepare_of_uri_error huri] at hout
    cases hout
  | ok uri =>
    rw [Request.prepare_of_uri_ok (isHeaderValue_of_printedAuthority h.authority) huri] at hout
    cases hout
    rw [(Request.sentAs_turned huri).host, h.uri_eq huri]
    rfl

/-- The name of a server has no user information. -/
theorem at_notMem_of_printedAuthority {cs : List Char} (h : RequestTarget.PrintedAuthority cs) :
    '@' ∉ cs := by
  intro hmem
  rcases h.mem hmem with ⟨-, hplain⟩ | hother
  · exact absurd hplain (by decide)
  · exact absurd hother (by decide)

/-- An empty query is left out. -/
theorem filter_ne_empty (query : Option String) :
    query.filter (· ≠ "") = if query = some "" then none else query := by
  cases query with
  | none => rfl
  | some q => by_cases hq : q = "" <;> simp [Option.filter, hq]

/-- A target that is read has the parts of the URL, if the query of the request is written. -/
theorem partsOf_of_parse (ht : parse text inbound = .ok t)
    (hinbound : ∀ q, inbound = some q → RequestTarget.QueryWritten q) :
    ∃ url, WebUrl.parse? text = some url ∧ url.scheme = "http" ∧ t.PartsOf url inbound := by
  have hwritten := written_of_parse ht hinbound
  obtain ⟨url, host, hurl, hscheme, hhost, rfl⟩ := exists_url_of_parse ht
  refine ⟨url, hurl, hscheme, ?_⟩
  constructor
  · exact hwritten.origin
  · exact ⟨host, hhost, rfl⟩
  · exact WebUrl.port_ne_of_http hurl hscheme
  · exact at_notMem_of_printedAuthority hwritten.authority
  · rfl
  · exact hwritten.slash
  · intro hempty
    exact absurd (Option.filter_eq_some_iff.mp hempty).2 (by simp)
  · intro q hq
    dsimp only
    rw [hq, filter_ne_empty]
    simp
  · intro hnone
    dsimp only
    rw [hnone, filter_ne_empty]
    rfl
  · exact fun uri => hwritten.uri_eq
  · exact fun r out => hwritten.host_eq

/-- Every target is read as the parts of an `http` URL. A text that is a URL of another scheme is
refused with this scheme, and one that is no URL as it is. A target names the same server in its
origin, in the host field of each request that is sent to it and where this request is sent to, by
the URL's host and by its port unless that is the default one; its path is the URL's, and its query
too if the URL has one. -/
theorem target_names_one_server (text : String) {inbound : Option String}
    (hinbound : inbound = none ∨ ∃ source arrival,
      RequestTarget.parse source = .ok arrival ∧ arrival.query = inbound) :
    (∀ t, parse text inbound = .ok t →
      ∃ url, WebUrl.parse? text = some url ∧ url.scheme = "http" ∧ t.PartsOf url inbound) ∧
    ((∃ t, parse text inbound = .ok t) ↔
      ∃ url, WebUrl.parse? text = some url ∧ url.scheme = "http") ∧
    (∀ scheme, parse text inbound = .error (.unsupportedScheme scheme) ↔
      ∃ url, WebUrl.parse? text = some url ∧ url.scheme = scheme ∧ scheme ≠ "http") ∧
    (parse text inbound = .error (.invalidTarget text) ↔ WebUrl.parse? text = none) := by
  have hquery : ∀ q, inbound = some q → RequestTarget.QueryWritten q := by
    rintro q rfl
    rcases hinbound with hnone | ⟨source, arrival, harrival, hq⟩
    · cases hnone
    · exact RequestTarget.queryWritten_of_parse harrival hq
  refine ⟨fun t ht => partsOf_of_parse ht hquery, exists_parse_iff text inbound, ?_, ?_⟩
  · exact fun scheme => parse_eq_unsupportedScheme_iff
  · exact parse_eq_invalidTarget_iff

/-- User information and the default port are left out, and an empty query of the URL is taken for
none, though the request has one. -/
theorem target_names_one_server_default_port :
    ∃ t arrival, RequestTarget.parse "/?x=1" = .ok arrival ∧
      parse "http://user:word@[0::1]:80/d?" arrival.query = .ok t ∧
      t.origin = "http://[::1]" ∧ t.authority = "[::1]" ∧ t.query = none ∧
      ∀ uri, t.uri = .ok uri → uri = ⟨some "http", "[::1]", "/d", none⟩ := by
  have harrival : RequestTarget.parse "/?x=1" = .ok ⟨none, "", "/", some "x=1"⟩ := by
    decide +kernel
  have ht : parse "http://user:word@[0::1]:80/d?" (some "x=1") =
      .ok ⟨"http://[::1]", "[::1]", "/d", none⟩ := by decide +kernel
  obtain ⟨url, -, -, hparts⟩ := (target_names_one_server "http://user:word@[0::1]:80/d?"
    (.inr ⟨"/?x=1", _, harrival, rfl⟩)).1 _ ht
  exact ⟨_, _, harrival, ht, hparts.origin, rfl, rfl, hparts.uri⟩

end ProxyTarget

end PagePreview
