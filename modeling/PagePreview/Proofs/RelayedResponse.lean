import PagePreview.Proofs.ConnectionFields

/-!
# The response that a client gets from another server

The answer of another server reaches the client with its status, its body and all its header fields,
in their order for each name, except for those of one connection. Only the location may change: if
the status is one that names where to go on and the first location leads to the server itself, this
location as the client has to see it takes the place of all of them. If anything stands in the way
of that, the locations stay as they are.
-/

namespace PagePreview

open Headers

/-- The location that takes the place of those of an answer. -/
structure Response.Relocates (x : Response) (t : ProxyTarget) (host : Option String)
    (seen : Bytes) : Prop where
  /-- Locations outlast the connection. -/
  kept : ¬x.headers.IsDropped "location"
  /-- The status is one of those with which a location names where to go on. -/
  status : x.status ∈ [201, 301, 302, 307, 308]
  /-- The first location can be read, and there is another form of it for the client. -/
  first : ∃ location text, (values "location" x.headers).head? = some (Utf8.encode location) ∧
    AllVisible (Utf8.encode location) ∧ t.clientLocation? location host = some text ∧
    seen = Utf8.encode text
  /-- This form is a header value. -/
  valid : isHeaderValue seen

/-- A response that a client gets for an answer of another server. -/
structure Response.SeenAs (x : Response) (t : ProxyTarget) (host : Option String)
    (y : Response) : Prop where
  /-- The same status. -/
  status : y.status = x.status
  /-- The same body. -/
  body : y.body = x.body
  /-- Nothing of what concerns one connection only. -/
  dropped : ∀ name, x.headers.IsDropped name → values name y.headers = []
  /-- All the values of every other name but the location, in their order. -/
  kept : ∀ name, name ≠ "location" → ¬x.headers.IsDropped name →
    values name y.headers = values name x.headers
  /-- The location for the client as the only one. -/
  relocated : ∀ seen, x.Relocates t host seen → values "location" y.headers = [seen]
  /-- If there is no such location, all that there are. -/
  located : (∀ seen, ¬x.Relocates t host seen) → ¬x.headers.IsDropped "location" →
    values "location" y.headers = values "location" x.headers

namespace Response

variable {x : Response} {t : ProxyTarget} {host : Option String} {seen : Bytes}

/-- A location takes the place of those of an answer exactly under these conditions. -/
theorem clientLocation?_eq_some_iff :
    clientLocation? x.status (stripHopByHop x.headers) t host = some seen ↔
      x.Relocates t host seen := by
  have hstatus : locationStatuses.contains x.status ↔ x.status ∈ [201, 301, 302, 307, 308] :=
    List.contains_iff_mem
  constructor
  · intro h
    have hkept := not_isDropped_of_clientLocation? h
    unfold clientLocation? at h
    rw [Option.ite_none_right_eq_some, hstatus] at h
    simp only [Option.bind_eq_bind, Option.bind_eq_some_iff, Option.ite_none_right_eq_some] at h
    obtain ⟨hmoves, value, hvalue, location, hread, text, htext, hvalid, hseen⟩ := h
    obtain ⟨hvisible, rfl⟩ := visibleText?_eq_some_iff.mp hread
    rw [first?_eq_head?, values_stripHopByHop_of_not_isDropped hkept] at hvalue
    rw [Option.some.inj hseen] at hvalid
    exact ⟨hkept, hmoves, ⟨location, text, hvalue, hvisible, htext, (Option.some.inj hseen).symm⟩,
      hvalid⟩
  · rintro ⟨hkept, hmoves, ⟨location, text, hvalue, hvisible, htext, rfl⟩, hvalid⟩
    have hread := visibleText?_eq_some_iff.mpr ⟨hvisible, rfl⟩
    rw [← values_stripHopByHop_of_not_isDropped hkept, ← first?_eq_head?] at hvalue
    unfold clientLocation?
    rw [Option.ite_none_right_eq_some, hstatus]
    simp only [Option.bind_eq_bind, Option.bind_eq_some_iff, Option.ite_none_right_eq_some]
    exact ⟨hmoves, _, hvalue, location, hread, text, htext, hvalid, rfl⟩

/-- The fields that a client gets if a location takes the place of those of the answer. -/
theorem headers_relayed_of_relocates (h : x.Relocates t host seen) :
    (x.relayed t host).headers = set "location" seen (stripHopByHop x.headers) := by
  unfold relayed
  dsimp only
  rw [clientLocation?_eq_some_iff.mpr h]

/-- The fields that a client gets otherwise. -/
theorem headers_relayed_of_not_relocates (h : ∀ seen, ¬x.Relocates t host seen) :
    (x.relayed t host).headers = stripHopByHop x.headers := by
  have hnone : clientLocation? x.status (stripHopByHop x.headers) t host = none := by
    rw [Option.eq_none_iff_forall_ne_some]
    exact fun seen hseen => h seen (clientLocation?_eq_some_iff.mp hseen)
  unfold relayed
  dsimp only
  rw [hnone]

/-- What a name other than the location has, it has after stripping. -/
theorem values_relayed {name : String} (hname : name ≠ "location") :
    values name (x.relayed t host).headers = values name (stripHopByHop x.headers) := by
  by_cases h : ∃ seen, x.Relocates t host seen
  · obtain ⟨seen, hseen⟩ := h
    rw [headers_relayed_of_relocates hseen, values_set hname]
  · rw [headers_relayed_of_not_relocates (not_exists.mp h)]

/-- A relayed answer is seen as it should be. -/
theorem seenAs_relayed (x : Response) (t : ProxyTarget) (host : Option String) :
    x.SeenAs t host (x.relayed t host) where
  status := rfl
  body := rfl
  dropped name hdropped := by
    by_cases hname : name = "location"
    · subst hname
      have hstays : ∀ seen, ¬x.Relocates t host seen := fun seen h => h.kept hdropped
      rw [headers_relayed_of_not_relocates hstays, values_stripHopByHop_of_isDropped hdropped]
    · rw [values_relayed hname, values_stripHopByHop_of_isDropped hdropped]
  kept name hname hkept := by
    rw [values_relayed hname, values_stripHopByHop_of_not_isDropped hkept]
  relocated seen h := by
    rw [headers_relayed_of_relocates h, values_set_self]
  located hstays hkept := by
    rw [headers_relayed_of_not_relocates hstays, values_stripHopByHop_of_not_isDropped hkept]

end Response

/-- Whatever another server answers and whatever host the client asked, the client gets the answer
with its status, body and fields, but for those of one connection and, under the conditions that are
told, for the location. Fields that only a value of `connection` which cannot be read lists are not
among those of one connection. -/
theorem answer_is_relayed_as_it_came (x : Response) (t : ProxyTarget) (host : Option String) :
    x.SeenAs t host (x.relayed t host) ∧
    ∀ (network : Network) (r : Request) (out : Outgoing), r.prepare t = .ok out →
      network out = .ok x → r.inboundHost = host →
      (r.forward network t).response = x.relayed t host := by
  refine ⟨Response.seenAs_relayed x t host, ?_⟩
  rintro network r out hout hx rfl
  unfold Request.forward
  rw [hout]
  dsimp only
  rw [hx]

/-- An answer with two locations, of which the first leads to the server itself, between two values
of another field, and with a field that it lists. -/
def movedAnswer : Response :=
  ⟨302, [⟨"set-cookie", [49]⟩, ⟨"location", Utf8.encode "http://[::1]:3000/b?x#y"⟩,
    ⟨"connection", Utf8.encode "X-Tag"⟩, ⟨"location", Utf8.encode "/c"⟩, ⟨"x-tag", [50]⟩,
    ⟨"set-cookie", [51]⟩], [104, 105]⟩

/-- A request to the host `localhost`. -/
def localRequest : Request :=
  ⟨"GET", ⟨none, "", "/a", none⟩, [⟨"host", Utf8.encode "localhost"⟩], [], none⟩

/-- The client gets one location, on the host that it asked, both values of the other field, and
nothing of the field that is listed. -/
theorem answer_is_relayed_as_it_came_moved :
    (∃ out, localRequest.prepare plainTarget = .ok out) ∧
    localRequest.inboundHost = some "localhost" ∧
    movedAnswer.Relocates plainTarget (some "localhost") (Utf8.encode "http://localhost/b?x#y") ∧
    ∃ y, (localRequest.forward (fun _ => .ok movedAnswer) plainTarget).response = y ∧
      y.status = 302 ∧ y.body = [104, 105] ∧
      values "location" y.headers = [Utf8.encode "http://localhost/b?x#y"] ∧
      values "set-cookie" y.headers = [[49], [51]] ∧ values "x-tag" y.headers = [] := by
  have hout : localRequest.prepare plainTarget =
      .ok ⟨"GET", ⟨some "http", "[::1]:3000", "/d", none⟩, "HTTP/1.1",
        [⟨"host", Utf8.encode "[::1]:3000"⟩], []⟩ := rfl
  have hhost : localRequest.inboundHost = some "localhost" := by decide +kernel
  have hdropped : movedAnswer.headers.IsDropped "x-tag" := by
    rw [isDropped_iff]
    decide +kernel
  have hkept : ∀ name ∈ ["location", "set-cookie"], ¬movedAnswer.headers.IsDropped name := by
    intro name hname
    rw [isDropped_iff]
    revert name
    decide +kernel
  have hmoves : movedAnswer.Relocates plainTarget (some "localhost")
      (Utf8.encode "http://localhost/b?x#y") :=
    ⟨hkept _ (by decide), by decide, ⟨"http://[::1]:3000/b?x#y", "http://localhost/b?x#y",
      by decide +kernel, by decide +kernel, by decide +kernel, rfl⟩, by decide +kernel⟩
  obtain ⟨hseen, hforward⟩ :=
    answer_is_relayed_as_it_came movedAnswer plainTarget (some "localhost")
  refine ⟨⟨_, hout⟩, hhost, hmoves, _, hforward _ _ _ hout rfl hhost, hseen.status, hseen.body,
    hseen.relocated _ hmoves, ?_, hseen.dropped _ hdropped⟩
  rw [hseen.kept _ (by decide) (hkept _ (by decide))]
  decide +kernel

/-- A field that a value of `connection` lists comes back to the client if this value holds a byte
outside ASCII as well. -/
theorem unread_value_shields_fields_of_an_answer :
    unreadValue ∈ values "connection" shieldedFields ∧ Lists unreadValue "x-secret" ∧
    values "x-secret" (Response.relayed ⟨200, shieldedFields, []⟩ plainTarget none).headers =
      [[49]] :=
  ⟨by decide +kernel, lists_unreadValue, by decide +kernel⟩

end PagePreview
