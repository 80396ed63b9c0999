import PagePreview.Proofs.PrintedUrl
import PagePreview.Proofs.UrlOrigin

/-!
# Locations as references

A client that named no host is told a location of the server as a reference, which is its path,
query and fragment. A reference with one slash in front leads to the same path on the server that
the client asked, whatever the path holds. But the first segments of a path may be empty. Then the
reference begins with two slashes, and a client reads the name of another server after them, which
is the next segment of the path.
-/

namespace PagePreview

open WebUrl

namespace WebUrl

/-- A URL without its scheme and its server. -/
def reference (u : WebUrl) : String :=
  u.path.text ++ RequestTarget.querySuffix u.query ++ fragmentSuffix u.fragment

/-- A URL with the scheme and the server of a page. -/
def onServerOf (u page : WebUrl) : WebUrl :=
  { u with scheme := page.scheme, host := page.host, port := page.port }

/-- The path begins with an empty segment, and goes on after it. -/
def BeginsEmpty (u : WebUrl) : Prop := ∃ s more, u.path = .segments ("" :: s :: more)

/-- Where a reference with a slash in front leads to from a page, if the scheme of the page is
special: another slash comes before the name of a server, and without one it is a path on the page's
own server. -/
def follow? (page : WebUrl) (reference : String) : Option WebUrl :=
  match clean reference.toList with
  | '/' :: rest =>
    if rest.head?.any (isSlash true) then
      authorityAndPath? true page.scheme (rest.dropWhile (isSlash true))
    else
      let (path, query, fragment) := cutTail rest
      some (assemble true page.scheme page.host page.port (pathOf true path) query fragment)
  | _ => none

variable {u page : WebUrl} {text : String}

/-! ## How a reference begins -/

/-- Neither a query nor a fragment begins with a slash. -/
theorem isSlash_head?_tail (query fragment : Option String) :
    ((RequestTarget.querySuffix query).toList ++ (fragmentSuffix fragment).toList).head?.any
      (isSlash true) = false := by
  cases query with
  | some q =>
    rw [RequestTarget.toList_querySuffix]
    rfl
  | none =>
    cases fragment with
    | some f =>
      have hnone : (RequestTarget.querySuffix none).toList = [] := rfl
      rw [hnone, toList_fragmentSuffix]
      rfl
    | none => rfl

/-- What is printed after the first slash begins with another one if the first segment is empty and
others follow, and with no slash otherwise. -/
theorem printed_begins {s : String} (more : List String) {tail : List Char}
    (hs : ∀ c ∈ s.toList, isSlash true c = false)
    (htail : tail.head?.any (isSlash true) = false) :
    (s = "" ∧ more ≠ [] ∧
        ∃ rest, s.toList ++ more.flatMap (fun s => '/' :: s.toList) ++ tail = '/' :: rest) ∨
      (¬(s = "" ∧ more ≠ []) ∧
        (s.toList ++ more.flatMap (fun s => '/' :: s.toList) ++ tail).head?.any
          (isSlash true) = false) := by
  cases htext : s.toList with
  | cons c rest =>
    refine .inr ⟨?_, hs c (by rw [htext]; exact List.mem_cons_self)⟩
    rintro ⟨rfl, -⟩
    cases htext
  | nil =>
    cases more with
    | cons next more =>
      exact .inl ⟨String.toList_eq_nil_iff.mp htext, List.cons_ne_nil next more, _, rfl⟩
    | nil => exact .inr ⟨fun h => h.2 rfl, htail⟩

/-- The reference of an `http` URL begins with two slashes if its path begins with an empty segment,
and with one slash otherwise. -/
theorem reference_begins (hu : parse? text = some u) (hscheme : u.scheme = "http") :
    ∃ rest, u.reference.toList = '/' :: rest ∧
      (u.BeginsEmpty ∧ (∃ more, rest = '/' :: more) ∨
        ¬u.BeginsEmpty ∧ rest.head?.any (isSlash true) = false) := by
  obtain ⟨host, port, cs, query, fragment, rfl⟩ := exists_assemble_of_http hu hscheme
  cases hsegments : resolve [] (Text.splitWhere (isSlash true) cs) with
  | nil => exact absurd hsegments (resolve_ne_nil (splitWhere_ne_nil (isSlash true) cs))
  | cons s more =>
    have hpath : pathOf true cs = .segments (s :: more) := congrArg UrlPath.segments hsegments
    have hresolved : Resolved s := by
      apply resolved_of_mem_resolve cs
      rw [hsegments]
      exact List.mem_cons_self
    have hempty :
        (assemble true "http" (some host) port (pathOf true cs) query fragment).BeginsEmpty ↔
          s = "" ∧ more ≠ [] := by
      unfold BeginsEmpty assemble
      dsimp only
      rw [hpath]
      cases more <;> simp
    have htail := isSlash_head?_tail (query.map (encodePart (escapedInQuery true)))
      (fragment.map (encodePart escapedInFragment))
    have htext : (assemble true "http" (some host) port (pathOf true cs) query
        fragment).reference.toList = '/' :: (s.toList ++ more.flatMap (fun s => '/' :: s.toList) ++
          ((RequestTarget.querySuffix (query.map (encodePart (escapedInQuery true)))).toList ++
            (fragmentSuffix (fragment.map (encodePart escapedInFragment))).toList)) := by
      unfold reference assemble
      dsimp only
      rw [hpath, String.toList_append, String.toList_append, toList_segments, List.flatMap_cons,
        List.append_assoc]
      rfl
    refine ⟨_, htext, ?_⟩
    rw [hempty]
    rcases printed_begins more hresolved.slashes htail with ⟨hs, hmore, hrest⟩ | hother
    · exact .inl ⟨⟨hs, hmore⟩, hrest⟩
    · exact .inr hother

/-- No reference of an `http` URL has blanks or control characters. -/
theorem isOuterBlank_of_mem_reference (hu : parse? text = some u) (hscheme : u.scheme = "http") :
    ∀ c ∈ u.reference.toList, isOuterBlank c = false := by
  obtain ⟨host, port, cs, query, fragment, rfl⟩ := exists_assemble_of_http hu hscheme
  intro c hc
  unfold reference at hc
  rw [String.toList_append, String.toList_append] at hc
  rcases List.mem_append.mp hc with hc | hc
  · rcases List.mem_append.mp hc with hc | hc
    · exact isOuterBlank_of_isUnescaped (by decide) ((pathWritten_pathOf cs).chars c hc)
    · exact isOuterBlank_of_mem_query hc
  · exact isOuterBlank_of_mem_fragment hc

/-! ## Where a reference leads to -/

/-- With one slash in front, a reference leads to the same path on the server of any page. -/
theorem follow?_reference (hu : parse? text = some u) (hscheme : u.scheme = "http")
    (hempty : ¬u.BeginsEmpty) (page : WebUrl) :
    page.follow? u.reference = some (u.onServerOf page) := by
  have hblank := isOuterBlank_of_mem_reference hu hscheme
  obtain ⟨after, hafter, hbegins⟩ := reference_begins hu hscheme
  have hone : after.head?.any (isSlash true) = false := by
    rcases hbegins with ⟨habsurd, -⟩ | ⟨-, hone⟩
    · exact absurd habsurd hempty
    · exact hone
  obtain ⟨host, port, cs, query, fragment, rfl⟩ := exists_assemble_of_http hu hscheme
  have hwritten := pathWritten_pathOf cs
  obtain ⟨path, hpath⟩ := hwritten.slash
  have hcut : after = path ++ (RequestTarget.querySuffix (query.map
      (encodePart (escapedInQuery true)))).toList ++
        (fragmentSuffix (fragment.map (encodePart escapedInFragment))).toList := by
    unfold reference assemble at hafter
    dsimp only at hafter
    rw [String.toList_append, String.toList_append, hpath] at hafter
    exact (List.cons.inj hafter).2.symm
  have hfront : ∀ c ∈ path, c ≠ '?' ∧ c ≠ '#' := fun c hc =>
    (RequestTarget.isPathChar_of_isUnescaped
      (hwritten.chars c (by rw [hpath]; exact List.mem_cons_of_mem _ hc))).2
  have hquery : ∀ q ∈ query.map (encodePart (escapedInQuery true)), ∀ c ∈ q.toList, c ≠ '#' := by
    intro q hq c hc
    obtain ⟨_, -, rfl⟩ := Option.map_eq_some_iff.mp hq
    exact (RequestTarget.isQueryChar_of_isUnescaped (isUnescaped_query hc)).2
  unfold follow?
  rw [clean_eq_self hblank, hafter]
  change (if after.head?.any (isSlash true) then _ else _) = _
  rw [hone, if_neg Bool.false_ne_true, hcut, cutTail_printed _ hfront hquery]
  dsimp only
  rw [pathOf_printed hpath]
  unfold assemble onServerOf
  rw [map_encodePart isUnescaped_query, map_encodePart (isUnescaped_of_mem (by decide))]

/-- With two slashes in front, a reference names a server of its own, whatever the page. -/
theorem follow?_reference_of_beginsEmpty (hu : parse? text = some u) (hscheme : u.scheme = "http")
    (hempty : u.BeginsEmpty) (hspecial : (defaultPort? page.scheme).isSome) :
    page.follow? u.reference = parse? (page.scheme ++ ":" ++ u.reference) := by
  have hblank := isOuterBlank_of_mem_reference hu hscheme
  obtain ⟨after, hafter, ⟨-, more, rfl⟩ | ⟨hnot, -⟩⟩ := reference_begins hu hscheme
  · have hname : ∀ c ∈ (page.scheme ++ ":").toList, isOuterBlank c = false := by
      have hall : (page.scheme ++ ":").toList.all fun c => !isOuterBlank c := by
        rcases eq_of_special hspecial with h | h | h | h | h <;> rw [h] <;> rfl
      exact fun c hc => by simpa using List.all_eq_true.mp hall c hc
    have hclean : clean (page.scheme ++ ":" ++ u.reference).toList =
        page.scheme.toList ++ ':' :: u.reference.toList := by
      rw [clean_eq_self]
      · rw [String.toList_append, String.toList_append, List.append_assoc]
        rfl
      · intro c hc
        rw [String.toList_append] at hc
        rcases List.mem_append.mp hc with hc | hc
        · exact hname c hc
        · exact hblank c hc
    rw [parse?_special hspecial hclean]
    unfold follow?
    rw [clean_eq_self hblank, hafter]
    rfl
  · exact absurd hempty hnot

end WebUrl

/-- How a client that named no host sees a location of the server. -/
structure ProxyTarget.SeenAsReference (t : ProxyTarget) (location : String) (url : WebUrl) :
    Prop where
  /-- It is told the path, the query and the fragment. -/
  told : t.clientLocation? location none = some url.reference
  /-- The reference begins with a slash. -/
  rooted : ∃ rest, url.reference.toList = '/' :: rest
  /-- It begins with a second slash exactly if an empty segment is at the front of the path. -/
  doubled : (∃ rest, url.reference.toList = '/' :: '/' :: rest) ↔ url.BeginsEmpty
  /-- Without a second slash, the client stays on the server of its page. -/
  stays : ¬url.BeginsEmpty → ∀ page : WebUrl,
    page.follow? url.reference = some (url.onServerOf page)
  /-- With a second slash, the server of the page has no influence on where the client goes. -/
  leaves : url.BeginsEmpty → ∀ page : WebUrl, (defaultPort? page.scheme).isSome →
    page.follow? url.reference = parse? (page.scheme ++ ":" ++ url.reference)

/-- A client that named no host is told every location of the server as a reference with a slash in
front. It stays on the server of its page, except for locations whose path begins with an empty
segment: there it is sent to the server that the path names after it. -/
theorem own_location_is_seen_as_reference {t : ProxyTarget} {location : String} {url : WebUrl}
    (hurl : parse? location = some url) (hscheme : url.scheme = "http")
    (hown : url.origin = t.origin) : t.SeenAsReference location url := by
  obtain ⟨after, hafter, hbegins⟩ := reference_begins hurl hscheme
  constructor
  · unfold ProxyTarget.clientLocation?
    rw [hurl]
    dsimp only
    rw [if_neg (not_not.mpr hown), String.empty_append]
    rfl
  · exact ⟨after, hafter⟩
  · rw [hafter]
    rcases hbegins with ⟨hempty, more, rfl⟩ | ⟨hempty, hone⟩
    · exact ⟨fun _ => hempty, fun _ => ⟨more, rfl⟩⟩
    · refine ⟨?_, fun h => absurd h hempty⟩
      rintro ⟨rest, hrest⟩
      cases hrest
      cases hone
  · exact fun hempty => follow?_reference hurl hscheme hempty
  · exact fun hempty page => follow?_reference_of_beginsEmpty hurl hscheme hempty

/-- A location whose path has an empty segment further on, and an empty query, leads to the server
of the page that the client comes from. -/
theorem own_location_is_seen_as_reference_inner_segment :
    ∃ t url, ProxyTarget.parse "http://[::1]:3000/d" none = .ok t ∧
      parse? "HTTP://user@[0::1]:3000/a/..\\b//c?#y" = some url ∧ url.scheme = "http" ∧
      url.origin = t.origin ∧ t.SeenAsReference "HTTP://user@[0::1]:3000/a/..\\b//c?#y" url ∧
      t.clientLocation? "HTTP://user@[0::1]:3000/a/..\\b//c?#y" none = some "/b//c?#y" ∧
      follow? ⟨"http", some (.ipv6 [0, 0, 0, 0, 0, 0, 0, 2]), some 8080, .segments ["x"], none,
          none⟩ "/b//c?#y" =
        some ⟨"http", some (.ipv6 [0, 0, 0, 0, 0, 0, 0, 2]), some 8080, .segments ["b", "", "c"],
          some "", some "y"⟩ := by
  have ht : ProxyTarget.parse "http://[::1]:3000/d" none =
      .ok ⟨"http://[::1]:3000", "[::1]:3000", "/d", none⟩ := by decide +kernel
  have hurl : parse? "HTTP://user@[0::1]:3000/a/..\\b//c?#y" =
      some ⟨"http", some (.ipv6 [0, 0, 0, 0, 0, 0, 0, 1]), some 3000, .segments ["b", "", "c"],
        some "", some "y"⟩ := by decide +kernel
  have hown : origin ⟨"http", some (.ipv6 [0, 0, 0, 0, 0, 0, 0, 1]), some 3000,
      .segments ["b", "", "c"], some "", some "y"⟩ = "http://[::1]:3000" := by decide +kernel
  have hseen := own_location_is_seen_as_reference
    (t := ⟨"http://[::1]:3000", "[::1]:3000", "/d", none⟩) hurl rfl hown
  have htext : reference ⟨"http", some (.ipv6 [0, 0, 0, 0, 0, 0, 0, 1]), some 3000,
      .segments ["b", "", "c"], some "", some "y"⟩ = "/b//c?#y" := by decide +kernel
  have hempty : ¬BeginsEmpty ⟨"http", some (.ipv6 [0, 0, 0, 0, 0, 0, 0, 1]), some 3000,
      .segments ["b", "", "c"], some "", some "y"⟩ := by
    rintro ⟨s, more, hpath⟩
    exact absurd (List.cons.inj (UrlPath.segments.inj hpath)).1 (by decide)
  have hstays := hseen.stays hempty
    ⟨"http", some (.ipv6 [0, 0, 0, 0, 0, 0, 0, 2]), some 8080, .segments ["x"], none, none⟩
  have htold := hseen.told
  rw [htext] at hstays htold
  exact ⟨_, _, ht, hurl, rfl, hown, hseen, htold, hstays⟩

/-- The path of a location of the server may begin with an empty segment, and then the client is
told a reference that leads it from its page to another server. -/
theorem own_location_may_name_another_server :
    ∃ t url, ProxyTarget.parse "http://[::1]:3000/d" none = .ok t ∧
      parse? "http://[::1]:3000//[::2]/x" = some url ∧ url.scheme = "http" ∧
      url.origin = t.origin ∧
      t.clientLocation? "http://[::1]:3000//[::2]/x" none = some "//[::2]/x" ∧
      follow? ⟨"http", some (.ipv6 [0, 0, 0, 0, 0, 0, 0, 3]), some 8080, .segments [""], none,
          none⟩ "//[::2]/x" =
        some ⟨"http", some (.ipv6 [0, 0, 0, 0, 0, 0, 0, 2]), none, .segments ["x"], none, none⟩ :=
  ⟨⟨"http://[::1]:3000", "[::1]:3000", "/d", none⟩,
    ⟨"http", some (.ipv6 [0, 0, 0, 0, 0, 0, 0, 1]), some 3000, .segments ["", "[::2]", "x"], none,
      none⟩,
    by decide +kernel, by decide +kernel, rfl, by decide +kernel, by decide +kernel,
    by decide +kernel⟩

end PagePreview
