import PagePreview.Proofs.ConnectionFields
import PagePreview.Proofs.UpstreamTarget

/-!
# The request that another server gets

A request is sent to another server with the client's method and body and with all its header
fields, in their order for each name, except for those of one connection. It names the server that
it is sent to, and only that one, as its host. Only a target that is no request target is refused,
and a request that has been turned to a server once is not changed by being turned to it again.
-/

namespace PagePreview

open Headers

variable {r : Request} {t : ProxyTarget} {out : Outgoing}

/-- A request as another server gets it, compared with what came in. -/
structure Request.SentAs (r : Request) (t : ProxyTarget) (out : Outgoing) : Prop where
  /-- The same method. -/
  method : out.method = r.method
  /-- The same body. -/
  body : out.body = r.body
  /-- The target's own request target. -/
  uri : t.uri = .ok out.uri
  /-- The version of persistent connections. -/
  version : out.version = "HTTP/1.1"
  /-- One host: the server that it is sent to. -/
  host : values "host" out.headers = [Utf8.encode t.authority]
  /-- Nothing else of what concerns one connection only. -/
  dropped : ∀ name, name ≠ "host" → r.headers.IsDropped name → values name out.headers = []
  /-- All the values of every other name, in their order. -/
  kept : ∀ name, name ≠ "host" → ¬r.headers.IsDropped name →
    values name out.headers = values name r.headers

namespace Request

/-- Only what becomes of the target decides whether a request can be sent. -/
theorem prepare_eq_error_iff {e : ProxyError}
    (hhost : isHeaderValue (Utf8.encode t.authority)) (r : Request) :
    r.prepare t = .error e ↔ t.uri = .error e := by
  constructor
  · intro h
    cases huri : t.uri with
    | ok uri =>
      rw [prepare_of_uri_ok hhost huri] at h
      cases h
    | error e' =>
      rw [prepare_of_uri_error huri] at h
      cases h
      rfl
  · exact fun huri => prepare_of_uri_error huri r

/-- A request that is turned to a target is sent as it should be. -/
theorem sentAs_turned {uri : RequestTarget} (huri : t.uri = .ok uri) :
    r.SentAs t (r.turned t uri) where
  method := rfl
  body := rfl
  uri := huri
  version := rfl
  host := values_set_self "host" _ _
  dropped _ hname hdropped :=
    (values_set hname _).trans (values_stripHopByHop_of_isDropped hdropped)
  kept _ hname hkept :=
    (values_set hname _).trans (values_stripHopByHop_of_not_isDropped hkept)

/-- No field of one connection is left to be stripped once more, and the host is set already. -/
theorem turned_of_fields {uri : RequestTarget} (again : Request)
    (hmethod : again.method = r.method) (hbody : again.body = r.body)
    (hheaders : again.headers = (r.turned t uri).headers) :
    again.turned t uri = r.turned t uri := by
  have hlasting : "host" ∉ hopByHop := by decide
  have hnone : ∀ field ∈ (r.turned t uri).headers, field.name ∉ hopByHop := by
    intro field hfield
    rcases mem_set.mp hfield with rfl | ⟨hfield, -⟩
    · exact hlasting
    · exact (mem_stripHopByHop.mp hfield).2.2
  unfold turned at hheaders hnone ⊢
  rw [hmethod, hbody, hheaders, stripHopByHop_eq_self hnone, set_set]

end Request

/-- A request is sent exactly if the target that was read is a request target; otherwise the error
is the target's. What is sent is the client's request but for the fields of one connection and the
host, and to turn it to the same server again gives the same, whatever is recorded with it. -/
theorem request_is_sent_as_it_came {text : String} {inbound : Option String} {t : ProxyTarget}
    (ht : ProxyTarget.parse text inbound = .ok t) (r : Request) :
    (∀ uri, t.uri = .ok uri → ∃ out, r.prepare t = .ok out ∧ r.SentAs t out ∧ out.uri = uri ∧
      ∀ recorded, Request.prepare ⟨out.method, out.uri, out.headers, out.body, recorded⟩ t =
        .ok out) ∧
    ∀ e, r.prepare t = .error e ↔ t.uri = .error e := by
  have hhost := ProxyTarget.isHeaderValue_of_parse ht
  constructor
  · intro uri huri
    refine ⟨_, Request.prepare_of_uri_ok hhost huri r, Request.sentAs_turned huri, rfl, ?_⟩
    intro recorded
    rw [Request.prepare_of_uri_ok hhost huri]
    exact congrArg _ (Request.turned_of_fields _ rfl rfl rfl)
  · exact fun e => Request.prepare_eq_error_iff hhost r

/-- A request whose field `connection` names the host, itself and another field, in two lines. -/
def connectedRequest : Request :=
  ⟨"POST", ⟨none, "", "/a", none⟩,
    [⟨"host", Utf8.encode "localhost"⟩, ⟨"connection", Utf8.encode "Host, connection"⟩,
      ⟨"accept", [49]⟩, ⟨"x-tag", [50]⟩, ⟨"connection", Utf8.encode "X-Tag"⟩, ⟨"accept", [51]⟩],
    [0], none⟩

/-- It is sent with the other server's name, without the field that it lists and with both values of
the one that it does not list. -/
theorem request_is_sent_as_it_came_connected :
    ProxyTarget.parse "http://[::1]:3000/d" none = .ok plainTarget ∧
    ∃ out, connectedRequest.prepare plainTarget = .ok out ∧
      connectedRequest.SentAs plainTarget out ∧
      connectedRequest.headers.IsDropped "x-tag" ∧ values "x-tag" out.headers = [] ∧
      ¬connectedRequest.headers.IsDropped "accept" ∧
      values "accept" out.headers = [[49], [51]] := by
  have hparse : ProxyTarget.parse "http://[::1]:3000/d" none = .ok plainTarget := by
    decide +kernel
  have huri : plainTarget.uri = .ok ⟨some "http", "[::1]:3000", "/d", none⟩ := by decide +kernel
  have hdropped : connectedRequest.headers.IsDropped "x-tag" := by
    rw [isDropped_iff]
    decide +kernel
  have hkept : ¬connectedRequest.headers.IsDropped "accept" := by
    rw [isDropped_iff]
    decide +kernel
  obtain ⟨out, hout, hsent, -⟩ :=
    (request_is_sent_as_it_came hparse connectedRequest).1 _ huri
  refine ⟨hparse, out, hout, hsent, hdropped, hsent.dropped _ (by decide) hdropped, hkept, ?_⟩
  rw [hsent.kept _ (by decide) hkept]
  decide +kernel

end PagePreview
