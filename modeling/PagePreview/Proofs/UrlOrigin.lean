import PagePreview.Proofs.AuthorityText
import PagePreview.Proofs.HttpUrl

/-!
# Whose origin a URL has

A `blob` URL has the origin of the URL that its path spells, which may be a `blob` URL again; any
other URL has its own. The origin is printed with a bound on how often a path is read. The bound is
never met: in a path without structure nothing has to be escaped, so what is read from it has a
shorter one. An `http` origin tells the host and the port.
-/

namespace PagePreview

namespace WebUrl

/-- A URL has the origin of another one: it is not a `blob` URL and they are the same, or its path
spells a URL that has this origin. -/
inductive OriginUrl : WebUrl → WebUrl → Prop
  /-- An origin of its own. -/
  | own {u : WebUrl} (scheme : u.scheme ≠ "blob") : OriginUrl u u
  /-- The origin of the URL that the path spells. -/
  | spelled {u inner v : WebUrl} (scheme : u.scheme = "blob")
      (path : parse? u.path.text = some inner) (rest : OriginUrl inner v) : OriginUrl u v

variable {u v : WebUrl} {text s : String} {fuel : Nat}

/-- Only a `blob` URL has another origin than its own. -/
theorem originUrl_iff (h : u.scheme ≠ "blob") : OriginUrl u v ↔ v = u := by
  constructor
  · intro hv
    cases hv with
    | own _ => rfl
    | spelled hblob _ _ => exact absurd hblob h
  · rintro rfl
    exact .own h

/-- A `blob` URL has an origin only if its path spells a URL. -/
theorem OriginUrl.exists_spelled (h : OriginUrl u v) (hblob : u.scheme = "blob") :
    ∃ inner, parse? u.path.text = some inner := by
  cases h with
  | own hscheme => exact absurd hblob hscheme
  | spelled _ path _ => exact ⟨_, path⟩

/-- The URL whose origin it is, is no `blob` URL. -/
theorem OriginUrl.scheme_ne (h : OriginUrl u v) : v.scheme ≠ "blob" := by
  induction h with
  | own scheme => exact scheme
  | spelled _ _ _ ih => exact ih

/-- What has the origin is read as well. -/
theorem OriginUrl.exists_parse (h : OriginUrl u v) (hu : ∃ text, parse? text = some u) :
    ∃ text, parse? text = some v := by
  induction h with
  | own _ => exact hu
  | spelled _ path _ ih => exact ih ⟨_, path⟩

/-! ## Paths without structure -/

/-- What is written of a path without structure needs no escape there. -/
theorem isUnescaped_control {cs : List Char} {c : Char}
    (h : c ∈ (encodePart isControl cs).toList) : IsUnescaped isControl c :=
  isUnescaped_of_mem (by decide) h

/-- Cleaning only leaves characters out. -/
theorem clean_sublist (cs : List Char) : (clean cs).Sublist cs := by
  rw [clean_eq_filter]
  exact List.filter_sublist.trans
    ((List.rdropWhile_prefix _ _).sublist.trans (List.dropWhile_sublist _))

/-- What stands before query and fragment is part of the text. -/
theorem cutTail_sublist (cs : List Char) : (cutTail cs).1.Sublist cs := by
  unfold cutTail
  simp only [List.span_eq_takeWhile_dropWhile]
  exact (List.takeWhile_sublist _).trans (List.takeWhile_sublist _)

/-- A slash is not ignored at the front. -/
theorem exists_clean_slash (rest : List Char) : ∃ more, clean ('/' :: rest) = '/' :: more := by
  have hkept : isOuterBlank '/' = false := by decide
  rw [clean_eq_filter, List.dropWhile_cons_of_neg (by rw [hkept]; exact Bool.false_ne_true)]
  cases hinner : ('/' :: rest).rdropWhile isOuterBlank with
  | nil =>
    have hall := List.rdropWhile_eq_nil_iff.mp hinner '/' List.mem_cons_self
    rw [hkept] at hall
    cases hall
  | cons c inner =>
    have hprefix := List.rdropWhile_prefix isOuterBlank ('/' :: rest)
    rw [hinner] at hprefix
    obtain ⟨rfl, -⟩ := List.cons_prefix_cons.mp hprefix
    exact ⟨_, List.filter_cons_of_pos (by decide)⟩

/-- A text that begins with a slash is no absolute URL. -/
theorem parse?_of_slash {rest : List Char} (h : text.toList = '/' :: rest) :
    parse? text = none := by
  obtain ⟨more, hmore⟩ := exists_clean_slash rest
  unfold parse?
  rw [h, hmore]
  rfl

/-- A path with segments spells no URL. -/
theorem parse?_segments (items : List String) : parse? (UrlPath.segments items).text = none := by
  cases items with
  | nil => rfl
  | cons item rest => exact parse?_of_slash (toList_segments (item :: rest))

/-- After an authority the path has segments. -/
theorem path_ne_opaqueText {special : Bool} {scheme : String} {cs : List Char}
    (h : authorityAndPath? special scheme cs = some u) : u.path ≠ .opaqueText s := by
  obtain ⟨_, _, path, _, _, rfl, hpath⟩ := exists_assemble_of_authorityAndPath? h
  rcases hpath with ⟨-, rfl⟩ | ⟨_, rfl⟩
  · exact fun hpath => nomatch hpath
  · exact fun hpath => nomatch hpath

/-- A path without structure is what stands before query and fragment, escaped. -/
theorem opaqueText_of_afterScheme? {scheme : String} {cs : List Char}
    (h : afterScheme? scheme cs = some u) (hpath : u.path = .opaqueText s) :
    s = encodePart isControl (cutTail cs).1 := by
  unfold afterScheme? at h
  split at h
  · obtain ⟨_, _, _, _, rfl⟩ := exists_assemble_of_filePath? h
    cases hpath
  split at h
  · exact absurd hpath (path_ne_opaqueText h)
  split at h
  · exact absurd hpath (path_ne_opaqueText h)
  · cases h
    cases hpath
  · cases h
    cases hpath
    rfl

/-- A path without structure is part of the text that was read, with control characters and all
outside ASCII escaped. -/
theorem exists_encodePart_of_parse? (h : parse? text = some u) (hpath : u.path = .opaqueText s) :
    ∃ cs, s = encodePart isControl cs ∧ cs.Sublist text.toList ∧
      cs.length < text.toList.length := by
  revert h
  fun_cases parse? text with
  | case1 cs scheme rest hletter hrest =>
    intro h
    rw [List.span_eq_takeWhile_dropWhile] at hrest
    have hread : (':' :: rest).Sublist text.toList := by
      rw [← (Prod.mk.inj hrest).2]
      exact (List.dropWhile_sublist _).trans (clean_sublist _)
    have hcut := cutTail_sublist rest
    have hlength := hcut.length_le
    have hshorter := hread.length_le
    rw [List.length_cons] at hshorter
    exact ⟨_, opaqueText_of_afterScheme? h hpath,
      hcut.trans ((List.sublist_cons_self ':' rest).trans hread), by omega⟩
  | case2 => exact nofun
  | case3 => exact nofun

/-- A path without structure has nothing to escape. -/
theorem isUnescaped_of_parse? (h : parse? text = some u) (hpath : u.path = .opaqueText s) :
    ∀ c ∈ s.toList, IsUnescaped isControl c := by
  obtain ⟨cs, rfl, -, -⟩ := exists_encodePart_of_parse? h hpath
  exact fun c => isUnescaped_control

/-- What is read from a text with nothing to escape has a shorter path, if it is one without
structure. -/
theorem length_lt_of_parse? (htext : ∀ c ∈ text.toList, IsUnescaped isControl c)
    (h : parse? text = some u) (hpath : u.path = .opaqueText s) : s.length < text.length := by
  obtain ⟨cs, rfl, hsub, hlength⟩ := exists_encodePart_of_parse? h hpath
  have hsame : encodePart isControl cs = String.ofList cs :=
    congrArg String.ofList (encode_eq_self fun c hc => htext c (hsub.subset hc))
  rw [hsame, String.length_ofList]
  exact hlength

/-! ## How often paths are read -/

/-- A bound on how often paths are read that will not be met. -/
structure Suffices (fuel : Nat) (u : WebUrl) : Prop where
  /-- The URL itself is looked at. -/
  pos : 0 < fuel
  /-- A path without structure is shorter than the bound. -/
  length : ∀ s, u.path = .opaqueText s → s.length < fuel
  /-- Such a path has nothing to escape. -/
  written : ∀ s, u.path = .opaqueText s → ∀ c ∈ s.toList, IsUnescaped isControl c

/-- For a URL that was read, the length of its path is bound enough. -/
theorem suffices_of_parse? (h : parse? text = some u) : Suffices (u.path.text.length + 1) u where
  pos := Nat.succ_pos _
  length s hpath := by
    rw [hpath]
    exact Nat.lt_succ_self _
  written s hpath := isUnescaped_of_parse? h hpath

/-- One step less suffices for the URL that a path spells. -/
theorem Suffices.spelled {inner : WebUrl} (h : Suffices (fuel + 1) u)
    (hinner : parse? u.path.text = some inner) :
    Suffices fuel inner := by
  cases hpath : u.path with
  | segments items =>
    -- No bound on the length is known here, but nothing is read from such a path.
    rw [hpath, parse?_segments] at hinner
    cases hinner
  | opaqueText s =>
    have hlength := Nat.le_of_lt_succ (h.length s hpath)
    rw [hpath] at hinner
    change parse? s = some inner at hinner
    have hsome : s.length ≠ 0 := by
      intro hzero
      rw [String.length_eq_zero_iff.mp hzero] at hinner
      cases hinner
    constructor
    · omega
    · intro t ht
      have hless := length_lt_of_parse? (h.written s hpath) hinner ht
      omega
    · exact fun t => isUnescaped_of_parse? hinner

/-! ## Printed origins -/

/-- Any bound is enough for a URL that is no `blob` URL. -/
theorem originText_of_scheme_ne (h : u.scheme ≠ "blob") (fuel : Nat) :
    originText (fuel + 1) u = u.origin := by
  unfold origin originText
  rw [if_neg h, if_neg h]

/-- With a bound that is enough, the origin printed is that of the URL whose origin it is. -/
theorem originText_of_originUrl (h : OriginUrl u v) (hfuel : Suffices fuel u) :
    originText fuel u = v.origin := by
  -- By induction on the URLs up to the one with an origin of its own: each takes one of the bound.
  induction h generalizing fuel with
  | own scheme =>
    obtain ⟨n, rfl⟩ := Nat.exists_eq_succ_of_ne_zero hfuel.pos.ne'
    exact originText_of_scheme_ne scheme n
  | spelled scheme path rest ih =>
    obtain ⟨n, rfl⟩ := Nat.exists_eq_succ_of_ne_zero hfuel.pos.ne'
    unfold originText
    rw [if_pos scheme, path]
    exact ih (hfuel.spelled path)

/-- An origin that is printed is that of some URL. -/
theorem exists_originUrl_of_originText (h : originText fuel u ≠ "null") :
    ∃ v, OriginUrl u v ∧ originText fuel u = v.origin := by
  induction fuel generalizing u with
  | zero => exact absurd rfl h
  | succ n ih =>
    by_cases hscheme : u.scheme = "blob"
    · unfold originText at h ⊢
      rw [if_pos hscheme] at h ⊢
      cases hinner : parse? u.path.text with
      | none =>
        rw [hinner] at h
        exact absurd rfl h
      | some inner =>
        rw [hinner] at h
        obtain ⟨v, hv, horigin⟩ := ih h
        exact ⟨v, .spelled hscheme hinner hv, horigin⟩
    · exact ⟨u, .own hscheme, originText_of_scheme_ne hscheme n⟩

/-- A URL that is read has the printed origin of the URL that its origin is. -/
theorem origin_of_originUrl (hu : parse? text = some u) (h : OriginUrl u v) :
    u.origin = v.origin :=
  originText_of_originUrl h (suffices_of_parse? hu)

/-- Every origin but `null` is that of a URL which is not a `blob` URL. -/
theorem exists_originUrl (h : u.origin ≠ "null") : ∃ v, OriginUrl u v ∧ u.origin = v.origin :=
  exists_originUrl_of_originText h

/-! ## What an `http` origin tells -/

/-- The special schemes that have an origin are told apart by how it begins. -/
theorem scheme_eq_http {scheme a b : String} (hspecial : (defaultPort? scheme).isSome)
    (h : scheme ++ "://" ++ a = "http://" ++ b) : scheme = "http" := by
  have htext := congrArg String.toList h
  -- Every other special scheme differs from `http:` in a character before its colon or at it.
  revert hspecial
  fun_cases defaultPort? scheme with
  | case1 hscheme =>
    rcases hscheme with rfl | rfl
    · exact fun _ => rfl
    · simp [String.toList_append] at htext
  | case2 _ hscheme =>
    rcases hscheme with rfl | rfl
    · simp [String.toList_append] at htext
    · simp [String.toList_append] at htext
  | case3 _ _ hscheme =>
    subst hscheme
    simp [String.toList_append] at htext
  | case4 => exact nofun

/-- No `http` origin is the word for none. -/
theorem http_ne_null {a : String} : "http://" ++ a ≠ "null" := by
  intro hnull
  have htext := congrArg String.toList hnull
  simp [String.toList_append] at htext

/-- Only an `http` URL has an origin of its own with this scheme. -/
theorem http_of_origin {a : String} (hscheme : u.scheme ≠ "blob")
    (h : u.origin = "http://" ++ a) :
    u.scheme = "http" ∧ ∃ host, u.host = some host ∧ authority host u.port = a := by
  unfold origin originText at h
  rw [if_neg hscheme] at h
  cases hhost : u.host with
  | none =>
    rw [hhost] at h
    exact absurd h.symm http_ne_null
  | some host =>
    rw [hhost] at h
    dsimp only at h
    by_cases hspecial : (defaultPort? u.scheme).isSome
    · rw [if_pos hspecial] at h
      have hhttp := scheme_eq_http hspecial h
      rw [hhttp] at h
      exact ⟨hhttp, host, rfl, (String.append_right_inj _).mp h⟩
    · rw [if_neg hspecial] at h
      exact absurd h.symm http_ne_null

/-- Outside brackets a host goes on up to a colon, and inside them it goes on. -/
theorem cutHost_append {inside : Bool} {cs : List Char}
    (h : ∀ c ∈ cs, c ≠ '[' ∧ c ≠ ']' ∧ (c = ':' → inside = true)) (rest : List Char) :
    cutHost inside (cs ++ rest) =
      (cs ++ (cutHost inside rest).1, (cutHost inside rest).2) := by
  induction cs with
  | nil => rfl
  | cons c cs ih =>
    obtain ⟨hopen, hclose, hcolon⟩ := h c List.mem_cons_self
    have hgoes : ¬(c = ':' ∧ inside = false) := by
      rintro ⟨hc, houtside⟩
      rw [hcolon hc] at houtside
      cases houtside
    rw [List.cons_append, cutHost, if_neg hgoes, if_neg hopen, if_neg hclose,
      ih fun x hx => h x (List.mem_cons_of_mem c hx)]
    rfl

/-- A port has no host in front of its colon. -/
theorem cutHost_portText (port : Option Nat) :
    cutHost false (RequestTarget.portText port) = ([], RequestTarget.portText port) := by
  cases port with
  | none => rfl
  | some p => rfl

/-- A printed host is cut off its port. -/
theorem cutHost_printed {host : List Char} (h : PrintedHost host) (port : Option Nat) :
    cutHost false (host ++ RequestTarget.portText port) =
      (host, RequestTarget.portText port) := by
  cases h with
  | name some plain =>
    have hchars : ∀ c ∈ host, c ≠ '[' ∧ c ≠ ']' ∧ (c = ':' → false = true) := by
      intro c hc
      have hinert := RequestTarget.isInert_of_isPlain (plain c hc)
      unfold RequestTarget.isInert at hinert
      simp only [Bool.and_eq_true, bne_iff_ne, ne_eq] at hinert
      obtain ⟨⟨⟨⟨⟨hcolon, hopen⟩, hclose⟩, _⟩, _⟩, _⟩ := hinert
      exact ⟨hopen, hclose, fun hc => absurd hc hcolon⟩
    rw [cutHost_append hchars, cutHost_portText, List.append_nil]
  | @bracketed cs chars colons =>
    have hchars : ∀ c ∈ cs, c ≠ '[' ∧ c ≠ ']' ∧ (c = ':' → true = true) := by
      intro c hc
      refine ⟨?_, ?_, fun _ => rfl⟩
      · rintro rfl
        exact absurd (chars _ hc) (by decide)
      · rintro rfl
        exact absurd (chars _ hc) (by decide)
    have hopen : cutHost false ('[' :: (cs ++ ']' :: RequestTarget.portText port)) =
        ('[' :: (cutHost true (cs ++ ']' :: RequestTarget.portText port)).1,
          (cutHost true (cs ++ ']' :: RequestTarget.portText port)).2) := rfl
    have hclose : cutHost true (']' :: RequestTarget.portText port) =
        (']' :: (cutHost false (RequestTarget.portText port)).1,
          (cutHost false (RequestTarget.portText port)).2) := rfl
    rw [List.cons_append, List.append_assoc, List.singleton_append, hopen, cutHost_append hchars,
      hclose, cutHost_portText]

/-- Ports are told apart by how they are printed. -/
theorem portText_injective : Function.Injective RequestTarget.portText := by
  intro p q h
  cases p with
  | none =>
    cases q with
    | none => rfl
    | some q => cases h
  | some p =>
    cases q with
    | none => cases h
    | some q =>
      have hdigits : Nat.toDigits 10 p = Nat.toDigits 10 q := (List.cons.inj h).2
      have hvalue := congrArg (Nat.ofDigitChars 10 · 0) hdigits
      rw [Nat.ofDigitChars_toDigits (by decide) (by decide),
        Nat.ofDigitChars_toDigits (by decide) (by decide)] at hvalue
      rw [hvalue]

/-- A host and a port are told from how they are printed. -/
theorem authority_inj {a b : Host} (ha : PrintedHost a.text.toList)
    (hb : PrintedHost b.text.toList) {p q : Option Nat} :
    authority a p = authority b q ↔ a.text = b.text ∧ p = q := by
  constructor
  · intro h
    have htext := congrArg String.toList h
    rw [RequestTarget.toList_authority, RequestTarget.toList_authority] at htext
    have hcut := congrArg (cutHost false) htext
    rw [cutHost_printed ha, cutHost_printed hb] at hcut
    obtain ⟨hhost, hport⟩ := Prod.mk.inj hcut
    exact ⟨String.toList_inj.mp hhost, portText_injective hport⟩
  · rintro ⟨hhost, rfl⟩
    unfold authority
    rw [hhost]

/-- An `http` URL of the same server as another URL; hosts are compared as they are printed. -/
structure SameServer (u base : WebUrl) : Prop where
  /-- The scheme is `http`. -/
  scheme : u.scheme = "http"
  /-- The hosts are printed alike. -/
  host : u.host.map Host.text = base.host.map Host.text
  /-- The ports are the same. -/
  port : u.port = base.port

/-- Of two URLs that are read, the second of them an `http` URL, the origin is the same exactly if
that of the first is the origin of a URL of the same server. -/
theorem origin_eq_iff {base : WebUrl} {other : String} (hu : parse? text = some u)
    (hbase : parse? other = some base) (hhttp : base.scheme = "http") :
    u.origin = base.origin ↔ ∃ v, OriginUrl u v ∧ v.SameServer base := by
  obtain ⟨baseHost, hbaseHost, hbasePrinted⟩ := (httpWritten_of_parse? hbase hhttp).host
  have hbaseOrigin := origin_of_http hhttp hbaseHost
  have hprinted : ∀ {v host}, OriginUrl u v → v.scheme = "http" → v.host = some host →
      PrintedHost host.text.toList := by
    intro v host hv hscheme hhost
    obtain ⟨_, hparse⟩ := hv.exists_parse ⟨text, hu⟩
    exact (httpWritten_of_parse? hparse hscheme).printed_of_host hhost
  rw [hbaseOrigin]
  constructor
  · intro h
    have hnull : u.origin ≠ "null" := by
      rw [h]
      exact http_ne_null
    obtain ⟨v, hv, horigin⟩ := exists_originUrl hnull
    rw [horigin] at h
    obtain ⟨hscheme, host, hhost, hauthority⟩ := http_of_origin hv.scheme_ne h
    obtain ⟨htext, hport⟩ := (authority_inj (hprinted hv hscheme hhost) hbasePrinted).mp hauthority
    refine ⟨v, hv, hscheme, ?_, hport⟩
    rw [hhost, hbaseHost]
    exact congrArg some htext
  · rintro ⟨v, hv, hscheme, hhost, hport⟩
    rw [hbaseHost] at hhost
    obtain ⟨host, hown, htext⟩ := Option.map_eq_some_iff.mp hhost
    rw [origin_of_originUrl hu hv, origin_of_http hscheme hown,
      (authority_inj (hprinted hv hscheme hown) hbasePrinted).mpr ⟨htext, hport⟩]

end WebUrl

end PagePreview
