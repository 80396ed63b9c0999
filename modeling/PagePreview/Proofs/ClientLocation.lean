import PagePreview.Proofs.PrintedUrl
import PagePreview.Proofs.UrlOrigin

/-!
# Locations on the client's host

A location that another server names is put onto the host that the client asked if its origin is the
server's. For a location that is no `blob` URL this means that it is an `http` URL with the server's
host and port, and what the client sees is read as the same path, query and fragment on the client's
host. A `blob` URL has the origin of the URL that it holds, and is taken for one of the server's as
well; but its path begins with no slash, so its text runs into the name of the client's host.
-/

namespace PagePreview

open WebUrl

namespace ProxyTarget

variable {t : ProxyTarget} {location server seen : String}

/-- A location that is no URL is not changed for the client. -/
theorem clientLocation?_of_parse?_none (h : parse? location = none) :
    t.clientLocation? location (some server) = none := by
  unfold clientLocation?
  rw [h]

/-- A location is seen on the client's host exactly if it has the target's origin. -/
theorem clientLocation?_eq_some_iff {url : WebUrl} (h : parse? location = some url) :
    t.clientLocation? location (some server) = some seen ↔
      url.origin = t.origin ∧ seen = url.onHost server := by
  have hseen : t.clientLocation? location (some server) =
      if url.origin ≠ t.origin then none else some (url.onHost server) := by
    unfold clientLocation?
    rw [h]
    rfl
  rw [hseen]
  by_cases hown : url.origin = t.origin
  · rw [if_neg (not_not.mpr hown)]
    exact ⟨fun hseen => ⟨hown, (Option.some.inj hseen).symm⟩,
      fun hseen => congrArg some hseen.2.symm⟩
  · rw [if_pos hown]
    exact ⟨nofun, fun hseen => absurd hseen.1 hown⟩

/-- How a location is seen on a host that the client asked, if the target was read as a URL. -/
structure SeenOn (t : ProxyTarget) (base : WebUrl) (location server : String) : Prop where
  /-- What is not read as a URL stays. -/
  unread : parse? location = none → t.clientLocation? location (some server) = none
  /-- Of all other URLs than `blob` URLs, those of the server are put onto the host. -/
  own : ∀ url, parse? location = some url → url.scheme ≠ "blob" → ∀ seen,
    t.clientLocation? location (some server) = some seen ↔
      url.SameServer base ∧ seen = url.onHost server
  /-- The path of such a URL begins with a slash. -/
  rooted : ∀ url, parse? location = some url → url.SameServer base →
    ∃ rest, url.path.text.toList = '/' :: rest
  /-- On the host it is read as the same URL but for the host and its port. -/
  read : ∀ url, parse? location = some url → url.SameServer base →
    ∀ host port, NamesServer server host port →
      parse? (url.onHost server) = some { url with host := some host, port := port }
  /-- A `blob` URL is put onto the host if it has the origin of a URL of the server. -/
  spelled : ∀ url, parse? location = some url → url.scheme = "blob" → ∀ seen,
    t.clientLocation? location (some server) = some seen ↔
      (∃ v, OriginUrl url v ∧ v.SameServer base) ∧ seen = url.onHost server
  /-- The path of a `blob` URL with an origin begins with no slash. -/
  garbled : ∀ url v, parse? location = some url → url.scheme = "blob" → OriginUrl url v →
    ∀ rest, url.path.text.toList ≠ '/' :: rest

end ProxyTarget

/-- Every target that is read stands for the server of the URL that it was read from. For all
locations and hosts, a location of this server is seen on the host with its path, query and fragment
and read there as such, and no other is, but for those that are `blob` URLs. -/
theorem own_location_is_seen_on_the_clients_host {text : String} {inbound : Option String}
    {t : ProxyTarget} (ht : ProxyTarget.parse text inbound = .ok t) :
    ∃ base host, parse? text = some base ∧ base.scheme = "http" ∧ base.host = some host ∧
      t.authority = authority host base.port ∧
      ∀ location server, t.SeenOn base location server := by
  obtain ⟨base, host, hbase, hscheme, hhost, rfl⟩ := ProxyTarget.exists_url_of_parse ht
  refine ⟨base, host, hbase, hscheme, hhost, rfl, fun location server => ?_⟩
  constructor
  · exact ProxyTarget.clientLocation?_of_parse?_none
  · intro url hurl hblob seen
    rw [ProxyTarget.clientLocation?_eq_some_iff hurl]
    change url.origin = base.origin ∧ _ ↔ _
    rw [origin_eq_iff hurl hbase hscheme]
    simp only [originUrl_iff hblob, exists_eq_left]
  · exact fun url hurl hserver => (httpWritten_of_parse? hurl hserver.scheme).path.slash
  · exact fun url hurl hserver _ _ => parse?_onHost hurl hserver.scheme
  · intro url hurl _ seen
    rw [ProxyTarget.clientLocation?_eq_some_iff hurl]
    change url.origin = base.origin ∧ _ ↔ _
    rw [origin_eq_iff hurl hbase hscheme]
  · intro url v _ hblob horigin rest hslash
    obtain ⟨inner, hinner⟩ := horigin.exists_spelled hblob
    rw [parse?_of_slash hslash] at hinner
    cases hinner

/-- A location of the server, with a query that is empty, is seen on the client's host with all of
its parts, and read there; a location with another port stays. -/
theorem own_location_is_seen_on_the_clients_host_empty_query :
    ∃ t, ProxyTarget.parse "http://[::1]:3000/d" none = .ok t ∧
      t.clientLocation? "HTTP://user@[0::1]:3000/a/../b?#y" (some "[::2]:8080") =
        some "http://[::2]:8080/b?#y" ∧
      parse? "http://[::2]:8080/b?#y" =
        some ⟨"http", some (.ipv6 [0, 0, 0, 0, 0, 0, 0, 2]), some 8080, .segments ["b"], some "",
          some "y"⟩ ∧
      t.clientLocation? "http://[::1]:80/b" (some "[::2]:8080") = none := by
  have ht : ProxyTarget.parse "http://[::1]:3000/d" none =
      .ok ⟨"http://[::1]:3000", "[::1]:3000", "/d", none⟩ := by decide +kernel
  have hbase : parse? "http://[::1]:3000/d" = some ⟨"http", some (.ipv6 [0, 0, 0, 0, 0, 0, 0, 1]),
      some 3000, .segments ["d"], none, none⟩ := by decide +kernel
  have hown : parse? "HTTP://user@[0::1]:3000/a/../b?#y" =
      some ⟨"http", some (.ipv6 [0, 0, 0, 0, 0, 0, 0, 1]), some 3000, .segments ["b"], some "",
        some "y"⟩ := by decide +kernel
  have hother : parse? "http://[::1]:80/b" = some ⟨"http", some (.ipv6 [0, 0, 0, 0, 0, 0, 0, 1]),
      none, .segments ["b"], none, none⟩ := by decide +kernel
  have hnames : NamesServer "[::2]:8080" (.ipv6 [0, 0, 0, 0, 0, 0, 0, 2]) (some 8080) :=
    ⟨by decide +kernel, by decide +kernel⟩
  obtain ⟨base, host, hread, -, -, -, hseen⟩ := own_location_is_seen_on_the_clients_host ht
  obtain rfl := Option.some.inj (hbase.symm.trans hread)
  have hmoved := hseen "HTTP://user@[0::1]:3000/a/../b?#y" "[::2]:8080"
  have hstays := hseen "http://[::1]:80/b" "[::2]:8080"
  refine ⟨_, ht, ?_, ?_, ?_⟩
  · rw [hmoved.own _ hown (by decide)]
    exact ⟨⟨rfl, rfl, rfl⟩, by decide +kernel⟩
  · exact hmoved.read _ hown ⟨rfl, rfl, rfl⟩ _ _ hnames
  · rw [Option.eq_none_iff_forall_ne_some]
    intro seen hsome
    rw [hstays.own _ hother (by decide)] at hsome
    exact absurd hsome.1.port nofun

/-- A `blob` URL of the server is no `http` URL, and yet it is put onto the client's host, where its
text runs into the host's name. -/
theorem blob_location_runs_into_the_clients_host :
    ∃ t url, ProxyTarget.parse "http://[::1]:3000/d" none = .ok t ∧
      parse? "blob:http://[::1]:3000/d" = some url ∧ url.scheme ≠ "http" ∧
      t.clientLocation? "blob:http://[::1]:3000/d" (some "client") =
        some "http://clienthttp://[::1]:3000/d" :=
  ⟨⟨"http://[::1]:3000", "[::1]:3000", "/d", none⟩,
    ⟨"blob", none, none, .opaqueText "http://[::1]:3000/d", none, none⟩,
    by decide +kernel, by decide +kernel, by decide, by decide +kernel⟩

end PagePreview
