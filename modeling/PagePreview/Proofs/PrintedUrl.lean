import PagePreview.Proofs.Encoding
import PagePreview.Proofs.UpstreamTarget

/-!
# Reading a printed URL

What an `http` URL prints after its host is read as the same path, query and fragment again, after
any text that names a server: the dots of the path have been resolved, and escaping it again does
not change it. So a URL can be put onto another host by writing this host in front of it.
-/

namespace PagePreview

namespace Utf8

/-- Only a full stop is written with the byte of a full stop in front. -/
theorem exists_cons_utf8EncodeChar {x : Char} (hx : x ≠ '.') :
    ∃ b rest, String.utf8EncodeChar x = b :: rest ∧ b.toNat ≠ 0x2E := by
  obtain ⟨n, hsequence, hn⟩ := exists_sequence x
  generalize String.utf8EncodeChar x = bytes at hsequence
  cases hsequence with
  | @one a high =>
    refine ⟨a, [], rfl, fun ha => hx ?_⟩
    rw [← hn, ha]
  | @two a b low high tail => exact ⟨a, [b], rfl, by omega⟩
  | @three a b c low high tail₁ tail₂ overlong surrogate => exact ⟨a, [b, c], rfl, by omega⟩
  | @four a b c d low high tail₁ tail₂ tail₃ overlong last => exact ⟨a, [b, c, d], rfl, by omega⟩

end Utf8

namespace WebUrl

/-! ## Dots -/

/-- The segments that are resolved, in lower case. -/
def dotWords : List (List Char) :=
  [".".toList, "%2e".toList, "..".toList, ".%2e".toList, "%2e.".toList, "%2e%2e".toList]

/-- A segment that is resolved. -/
def IsDots (cs : List Char) : Prop := isDoubleDot cs = true ∨ isSingleDot cs = true

/-- A dot segment is one of the words for one. -/
theorem IsDots.mem_dotWords {cs : List Char} (h : IsDots cs) :
    cs.map Ascii.lower ∈ dotWords := by
  have hword : ∀ {w : String}, String.ofList (cs.map Ascii.lower) = w →
      cs.map Ascii.lower = w.toList := by
    rintro w rfl
    exact String.toList_ofList.symm
  rcases h with h | h
  · unfold isDoubleDot at h
    simp only [List.any_cons, List.any_nil, Bool.or_false, Bool.or_eq_true, beq_iff_eq] at h
    rcases h with (h | h) | h | h
    · rw [hword h]
      decide
    · rw [hword h]
      decide
    · rw [hword h]
      decide
    · rw [hword h]
      decide
  · unfold isSingleDot at h
    dsimp only at h
    rw [Bool.or_eq_true, beq_iff_eq, beq_iff_eq] at h
    rcases h with h | h
    · rw [hword h]
      decide
    · rw [hword h]
      decide

/-- A percent sign in such a segment begins the escape of a full stop. -/
theorem escape_in_dotWords : ∀ w ∈ dotWords, ∀ k < w.length, w[k]? = some '%' →
    w[k + 1]? = some '2' ∧ w[k + 2]? = some 'e' := by
  decide

/-- Only two digits of an escape can stand in the words for a dot. -/
theorem digit_of_upperHexDigit : ∀ n < 16,
    (Ascii.lower (Ascii.upperHexDigit n) = '2' → n = 2) ∧
      (Ascii.lower (Ascii.upperHexDigit n) = 'e' → n = 14) := by
  decide

/-- The escape of another byte does not stand in a segment that is resolved. -/
theorem not_isDots_of_escapeByte {b : UInt8} (hb : b.toNat ≠ 0x2E) (before after : List Char) :
    ¬IsDots (before ++ (Percent.escapeByte b ++ after)) := by
  intro hdots
  have hbyte : b.toNat < 256 := b.toNat_lt
  have htext : (before ++ (Percent.escapeByte b ++ after)).map Ascii.lower =
      before.map Ascii.lower ++ '%' :: Ascii.lower (Ascii.upperHexDigit (b.toNat / 16)) ::
        Ascii.lower (Ascii.upperHexDigit (b.toNat % 16)) :: after.map Ascii.lower :=
    List.map_append
  have hword := hdots.mem_dotWords
  rw [htext] at hword
  obtain ⟨hhigh, hlow⟩ := escape_in_dotWords _ hword (before.map Ascii.lower).length
    (by simp) (by simp)
  rw [List.getElem?_append_right (by omega)] at hhigh hlow
  have htwo : b.toNat / 16 = 2 :=
    (digit_of_upperHexDigit _ (by omega)).1 (by simpa using hhigh)
  have hfourteen : b.toNat % 16 = 14 :=
    (digit_of_upperHexDigit _ (by omega)).2 (by simpa using hlow)
  omega

/-- Escaping makes no segment one that is resolved. -/
theorem isDots_of_encode {cs : List Char} (h : IsDots (Percent.encode escapedInPath cs)) :
    IsDots cs := by
  by_cases hall : ∀ c ∈ cs, IsUnescaped escapedInPath c
  · rwa [encode_eq_self hall] at h
  · -- An escaped character leaves the escape of its first byte behind, which no such segment has.
    simp only [not_forall] at hall
    obtain ⟨x, hx, hescaped⟩ := hall
    have hdot : x ≠ '.' := by
      rintro rfl
      exact hescaped ⟨by decide, by decide⟩
    obtain ⟨before, after, rfl⟩ := List.append_of_mem hx
    obtain ⟨b, rest, hbytes, hb⟩ := Utf8.exists_cons_utf8EncodeChar hdot
    have hx' : Percent.encodeChar escapedInPath x =
        Percent.escapeByte b ++ rest.flatMap Percent.escapeByte := by
      rw [Percent.encodeChar, hbytes, List.flatMap_cons]
      exact if_neg hescaped
    unfold Percent.encode at h
    rw [List.flatMap_append, List.flatMap_cons, hx', List.append_assoc] at h
    exact absurd h (not_isDots_of_escapeByte hb _ _)

/-! ## Paths -/

/-- A segment that is read as it is printed. -/
structure Resolved (s : String) : Prop where
  /-- Nothing has to be escaped. -/
  chars : ∀ c ∈ s.toList, IsUnescaped escapedInPath c
  /-- Nothing is taken for the end of the segment. -/
  slashes : ∀ c ∈ s.toList, isSlash true c = false
  /-- There are no dots to resolve. -/
  dots : ¬IsDots s.toList

/-- The empty segment is resolved. -/
theorem resolved_empty : Resolved "" := ⟨nofun, nofun, not_or.mpr ⟨by decide, by decide⟩⟩

/-- Escaping adds no slashes. -/
theorem isSlash_of_mem_encode {cs : List Char} (hcs : ∀ c ∈ cs, isSlash true c = false) {c : Char}
    (hc : c ∈ Percent.encode escapedInPath cs) : isSlash true c = false := by
  rcases Percent.mem_encode hc with ⟨hc, -⟩ | rfl | hc
  · exact hcs c hc
  · decide
  · have hlt := Ascii.toNat_lt_of_isAlphanumeric hc
    revert hc
    exact Ascii.forall_lt (P := fun c => Ascii.isAlphanumeric c → isSlash true c = false)
      (by decide) hlt

/-- A segment that is no dot segment is resolved when it is escaped. -/
theorem resolved_encodePart {cs : List Char} (hcs : ∀ c ∈ cs, isSlash true c = false)
    (hdots : ¬IsDots cs) : Resolved (encodePart escapedInPath cs) where
  chars _ := isUnescaped_path
  slashes c hc := by
    unfold encodePart at hc
    rw [String.toList_ofList] at hc
    exact isSlash_of_mem_encode hcs hc
  dots hencoded := by
    unfold encodePart at hencoded
    rw [String.toList_ofList] at hencoded
    exact hdots (isDots_of_encode hencoded)

/-- Segments that are read as they are printed are all kept. -/
theorem resolve_of_resolved {segments : List String} (h : ∀ s ∈ segments, Resolved s)
    (done : List String) :
    resolve done (segments.map String.toList) = done.reverse ++ segments := by
  induction segments generalizing done with
  | nil => simp [resolve]
  | cons s rest ih =>
    have hs := h s List.mem_cons_self
    obtain ⟨hdouble, hsingle⟩ := not_or.mp hs.dots
    have hkept := encodePart_eq_self hs.chars
    cases rest with
    | nil =>
      rw [List.map_singleton, resolve, if_neg hdouble, if_neg hsingle, hkept, List.reverse_cons]
    | cons next rest =>
      rw [List.map_cons, resolve, if_neg hdouble, if_neg hsingle, hkept,
        ih fun x hx => h x (List.mem_cons_of_mem s hx), List.reverse_cons, List.append_assoc]
      · rfl
      · simp

/-- Printed segments are cut where they were put together. -/
theorem splitWhere_segments {s : String} {segments : List String}
    (h : ∀ x ∈ s :: segments, ∀ c ∈ x.toList, isSlash true c = false) :
    Text.splitWhere (isSlash true) (s.toList ++ segments.flatMap fun s => '/' :: s.toList) =
      (s :: segments).map String.toList := by
  induction segments generalizing s with
  | nil =>
    rw [List.flatMap_nil, List.append_nil, Text.splitWhere_eq_singleton (h s List.mem_cons_self)]
    rfl
  | cons next rest ih =>
    rw [List.flatMap_cons, List.cons_append, Text.splitWhere_append_cons (by decide),
      Text.splitWhere_eq_singleton (h s List.mem_cons_self),
      ih fun x hx => h x (List.mem_cons_of_mem s hx)]
    rfl

/-- The segments of a path that is read are all read as they are printed. -/
theorem resolved_of_mem_resolve (cs : List Char) :
    ∀ s ∈ resolve [] (Text.splitWhere (isSlash true) cs), Resolved s := by
  refine forall_mem_resolve resolved_empty nofun fun piece hpiece hdouble hsingle => ?_
  refine resolved_encodePart (fun c => Text.not_sep_of_mem_splitWhere hpiece) ?_
  rintro (hdots | hdots)
  · rw [hdouble] at hdots
    cases hdots
  · rw [hsingle] at hdots
    cases hdots

/-- A path is read as it is printed. -/
theorem pathOf_printed {cs rest : List Char}
    (h : (pathOf true cs).text.toList = '/' :: rest) : pathOf true rest = pathOf true cs := by
  have hall := resolved_of_mem_resolve cs
  unfold pathOf at h ⊢
  rw [toList_segments] at h
  cases hsegments : resolve [] (Text.splitWhere (isSlash true) cs) with
  | nil => exact absurd hsegments (resolve_ne_nil (splitWhere_ne_nil _ cs))
  | cons s segments =>
    rw [hsegments] at h hall
    rw [List.flatMap_cons, List.cons_append] at h
    rw [← (List.cons.inj h).2, splitWhere_segments fun x hx => (hall x hx).slashes,
      resolve_of_resolved hall]
    rfl

/-! ## From the scheme to the authority -/

/-- A text without blanks and control characters is read as it stands. -/
theorem clean_eq_self {cs : List Char} (h : ∀ c ∈ cs, isOuterBlank c = false) : clean cs = cs := by
  have hdrop : cs.dropWhile isOuterBlank = cs := by
    rw [List.dropWhile_eq_self_iff]
    intro hpos
    rw [h _ (List.getElem_mem hpos)]
    exact Bool.false_ne_true
  have hback : cs.rdropWhile isOuterBlank = cs := by
    rw [List.rdropWhile_eq_self_iff]
    intro hne
    rw [h _ (List.getLast_mem hne)]
    exact Bool.false_ne_true
  rw [clean_eq_filter, hdrop, hback, List.filter_eq_self]
  intro c hc
  have hblank := h c hc
  unfold isOuterBlank at hblank
  rw [decide_eq_false_iff_not] at hblank
  simp only [Bool.and_eq_true, bne_iff_ne]
  refine ⟨⟨?_, ?_⟩, ?_⟩
  · rintro rfl
    exact hblank (by decide)
  · rintro rfl
    exact hblank (by decide)
  · rintro rfl
    exact hblank (by decide)

/-- The schemes with a port of their own. -/
theorem eq_of_special {scheme : String} (h : (defaultPort? scheme).isSome) :
    scheme = "http" ∨ scheme = "ws" ∨ scheme = "https" ∨ scheme = "wss" ∨ scheme = "ftp" := by
  revert h
  fun_cases defaultPort? scheme with
  | case1 hscheme => exact fun _ => hscheme.imp_right .inl
  | case2 _ hscheme => exact fun _ => .inr (.inr (hscheme.imp_right .inl))
  | case3 _ _ hscheme => exact fun _ => .inr (.inr (.inr (.inr hscheme)))
  | case4 => exact nofun

/-- After a special scheme any number of slashes may stand before the authority. -/
theorem parse?_special {text scheme : String} {cs : List Char}
    (hspecial : (defaultPort? scheme).isSome)
    (hclean : clean text.toList = scheme.toList ++ ':' :: cs) :
    parse? text = authorityAndPath? true scheme (cs.dropWhile (isSlash true)) := by
  unfold parse?
  rw [hclean]
  -- What is left are tests of the scheme, which is one of five fixed texts.
  rcases eq_of_special hspecial with rfl | rfl | rfl | rfl | rfl <;> rfl

/-- After the scheme `http` and two slashes, the authority follows. -/
theorem parse?_http {text : String} {cs : List Char} (htext : text.toList = "http://".toList ++ cs)
    (hclean : ∀ c ∈ cs, isOuterBlank c = false) (hslash : ∀ c ∈ cs.head?, isSlash true c = false) :
    parse? text = authorityAndPath? true "http" cs := by
  have hall : ∀ c ∈ text.toList, isOuterBlank c = false := by
    intro c hc
    rw [htext] at hc
    rcases List.mem_append.mp hc with hc | hc
    · have hscheme : "http://".toList.all fun c => !isOuterBlank c := by decide
      simpa using List.all_eq_true.mp hscheme c hc
    · exact hclean c hc
  have hslashes : "//".toList.all (isSlash true) := by decide
  have hdrop : ("//".toList ++ cs).dropWhile (isSlash true) = cs := by
    rw [List.dropWhile_append_of_pos (List.all_eq_true.mp hslashes)]
    cases cs with
    | nil => rfl
    | cons c rest =>
      rw [List.dropWhile_cons_of_neg]
      rw [hslash c rfl]
      exact Bool.false_ne_true
  have hread : clean text.toList = "http".toList ++ ':' :: ("//".toList ++ cs) := by
    rw [clean_eq_self hall, htext]
    rfl
  rw [parse?_special (by decide) hread, hdrop]

/-! ## Queries and fragments -/

/-- What is printed for a fragment. -/
def fragmentSuffix : Option String → String
  | some f => "#" ++ f
  | none => ""

/-- The characters of a fragment with its number sign. -/
theorem toList_fragmentSuffix (f : String) : (fragmentSuffix (some f)).toList = '#' :: f.toList :=
  String.toList_append

/-- A printed query has its question mark and its own characters. -/
theorem mem_querySuffix {query : Option String} {c : Char}
    (h : c ∈ (RequestTarget.querySuffix query).toList) : c = '?' ∨ ∃ q ∈ query, c ∈ q.toList := by
  cases query with
  | none => cases h
  | some q =>
    rw [RequestTarget.toList_querySuffix] at h
    exact (List.mem_cons.mp h).imp_right fun hc => ⟨q, rfl, hc⟩

/-- A printed fragment has its number sign and its own characters. -/
theorem mem_fragmentSuffix {fragment : Option String} {c : Char}
    (h : c ∈ (fragmentSuffix fragment).toList) : c = '#' ∨ ∃ f ∈ fragment, c ∈ f.toList := by
  cases fragment with
  | none => cases h
  | some f =>
    rw [toList_fragmentSuffix] at h
    exact (List.mem_cons.mp h).imp_right fun hc => ⟨f, rfl, hc⟩

/-- A query and a fragment are cut off where they begin. -/
theorem cutTail_printed {front : List Char} {query : Option String} (fragment : Option String)
    (hfront : ∀ c ∈ front, c ≠ '?' ∧ c ≠ '#') (hquery : ∀ q ∈ query, ∀ c ∈ q.toList, c ≠ '#') :
    cutTail (front ++ (RequestTarget.querySuffix query).toList ++
        (fragmentSuffix fragment).toList) =
      (front, query.map String.toList, fragment.map String.toList) := by
  have hspanFragment : (front ++ (RequestTarget.querySuffix query).toList ++
      (fragmentSuffix fragment).toList).span (· != '#') =
        (front ++ (RequestTarget.querySuffix query).toList, (fragmentSuffix fragment).toList) := by
    refine Text.span_append (fun c hc => bne_iff_ne.mpr ?_) fun c hc => ?_
    · rcases List.mem_append.mp hc with hc | hc
      · exact (hfront c hc).2
      rcases mem_querySuffix hc with rfl | ⟨q, hq, hc⟩
      · decide
      · exact hquery q hq c hc
    · cases fragment with
      | none => cases hc
      | some f =>
        rw [toList_fragmentSuffix] at hc
        cases hc
        rfl
  have hspanQuery : (front ++ (RequestTarget.querySuffix query).toList).span (· != '?') =
      (front, (RequestTarget.querySuffix query).toList) := by
    refine Text.span_append (fun c hc => bne_iff_ne.mpr (hfront c hc).1) fun c hc => ?_
    rw [RequestTarget.eq_of_mem_head?_querySuffix hc]
    rfl
  unfold cutTail
  rw [hspanFragment]
  dsimp only
  rw [hspanQuery]
  cases fragment with
  | none =>
    cases query with
    | none => rfl
    | some q =>
      rw [RequestTarget.toList_querySuffix]
      rfl
  | some f =>
    rw [toList_fragmentSuffix]
    cases query with
    | none => rfl
    | some q =>
      rw [RequestTarget.toList_querySuffix]
      rfl

/-- Blanks and control characters are escaped wherever these are. -/
theorem isOuterBlank_of_isUnescaped {escaped : Char → Bool}
    (hall : ∀ n < 0x80, escaped (Char.ofNat n) = false → isOuterBlank (Char.ofNat n) = false)
    {c : Char} (h : IsUnescaped escaped c) : isOuterBlank c = false :=
  Ascii.forall_lt (P := fun c => escaped c = false → isOuterBlank c = false) hall h.1 h.2

/-- No query is printed with blanks or control characters. -/
theorem isOuterBlank_of_mem_query {query : Option (List Char)} {c : Char}
    (hc : c ∈ (RequestTarget.querySuffix
      (query.map (encodePart (escapedInQuery true)))).toList) : isOuterBlank c = false := by
  rcases mem_querySuffix hc with rfl | ⟨q, hq, hc⟩
  · decide
  · obtain ⟨_, -, rfl⟩ := Option.map_eq_some_iff.mp hq
    exact isOuterBlank_of_isUnescaped (by decide) (isUnescaped_query hc)

/-- Nor is any fragment. -/
theorem isOuterBlank_of_mem_fragment {fragment : Option (List Char)} {c : Char}
    (hc : c ∈ (fragmentSuffix (fragment.map (encodePart escapedInFragment))).toList) :
    isOuterBlank c = false := by
  rcases mem_fragmentSuffix hc with rfl | ⟨f, hf, hc⟩
  · decide
  · obtain ⟨_, -, rfl⟩ := Option.map_eq_some_iff.mp hf
    exact isOuterBlank_of_isUnescaped (by decide) (isUnescaped_of_mem (by decide) hc)

/-- Escaping an escaped part again does not change it. -/
theorem map_encodePart {escaped : Char → Bool}
    (h : ∀ {cs c}, c ∈ (encodePart escaped cs).toList → IsUnescaped escaped c)
    (part : Option (List Char)) :
    ((part.map (encodePart escaped)).map String.toList).map (encodePart escaped) =
      part.map (encodePart escaped) := by
  cases part with
  | none => rfl
  | some cs => exact congrArg some (encodePart_eq_self fun c => h)

/-! ## On another host -/

/-- A URL as it is printed on another host. -/
def onHost (u : WebUrl) (host : String) : String :=
  "http://" ++ host ++ u.path.text ++ RequestTarget.querySuffix u.query ++
    fragmentSuffix u.fragment

/-- A text without blanks and without anything that ends an authority. -/
def ServerWritten (text : String) : Prop :=
  ∀ c ∈ text.toList, isOuterBlank c = false ∧ isSlash true c = false ∧ c ≠ '?' ∧ c ≠ '#'

instance (text : String) : Decidable (ServerWritten text) :=
  List.decidableBAll
    (fun c => isOuterBlank c = false ∧ isSlash true c = false ∧ c ≠ '?' ∧ c ≠ '#') text.toList

/-- A text that is read as a host, with a port or without one. -/
structure NamesServer (text : String) (host : Host) (port : Option Nat) : Prop where
  /-- The text is written like an authority. -/
  chars : ServerWritten text
  /-- The text is an authority. -/
  read : hostAndPort? true "http" text.toList true = some (host, port, [])

/-- What is read as an `http` URL is put together like this. -/
theorem exists_assemble_of_http {u : WebUrl} {text : String} (hu : parse? text = some u)
    (hscheme : u.scheme = "http") : ∃ host port cs query fragment,
      u = assemble true "http" (some host) port (pathOf true cs) query fragment := by
  obtain ⟨cs, hcs⟩ := authorityAndPath?_of_http hu hscheme
  obtain ⟨host, port, path, query, fragment, rfl, hpath⟩ :=
    exists_assemble_of_authorityAndPath? hcs
  rcases hpath with ⟨hspecial, -⟩ | ⟨cs, rfl⟩
  · cases hspecial
  · exact ⟨host, port, cs, query, fragment, rfl⟩

variable {server : String} {host : Host} {port : Option Nat}

/-- What names a server is some text. -/
theorem NamesServer.exists_cons (h : NamesServer server host port) :
    ∃ c rest, server.toList = c :: rest := by
  have hread := h.read
  cases hserver : server.toList with
  | nil =>
    rw [hserver] at hread
    cases hread
  | cons c rest => exact ⟨c, rest, rfl⟩

/-- The authority, the path, the query and the fragment are found where they were printed. -/
theorem authorityAndPath?_printed (hserver : NamesServer server host port) (cs : List Char)
    {query : Option String} (fragment : Option String)
    (hquery : ∀ q ∈ query, ∀ c ∈ q.toList, c ≠ '#') :
    authorityAndPath? true "http" (server.toList ++ (pathOf true cs).text.toList ++
        (RequestTarget.querySuffix query).toList ++ (fragmentSuffix fragment).toList) =
      some (assemble true "http" (some host) port (pathOf true cs) (query.map String.toList)
        (fragment.map String.toList)) := by
  have hwritten := pathWritten_pathOf cs
  obtain ⟨rest, hslash⟩ := hwritten.slash
  have hfront : ∀ c ∈ server.toList ++ (pathOf true cs).text.toList, c ≠ '?' ∧ c ≠ '#' := by
    intro c hc
    rcases List.mem_append.mp hc with hc | hc
    · exact (hserver.chars c hc).2.2
    · exact (RequestTarget.isPathChar_of_isUnescaped (hwritten.chars c hc)).2
  have hspan : (server.toList ++ (pathOf true cs).text.toList).span (fun c => !isSlash true c) =
      (server.toList, '/' :: rest) := by
    rw [hslash]
    refine Text.span_append (fun c hc => ?_) fun c hc => ?_
    · rw [(hserver.chars c hc).2.1]
      rfl
    · cases hc
      rfl
  unfold authorityAndPath?
  rw [cutTail_printed fragment hfront hquery]
  dsimp only
  rw [hspan]
  -- The path begins with a slash, so the authority counts as followed by something.
  change (hostAndPort? true "http" server.toList true).bind _ = _
  rw [hserver.read, ← pathOf_printed hslash]
  rfl

/-- A printed `http` URL is read as itself on another host. -/
theorem parse?_onHost {u : WebUrl} {text : String} (hu : parse? text = some u)
    (hscheme : u.scheme = "http") (hserver : NamesServer server host port) :
    parse? (u.onHost server) = some { u with host := some host, port := port } := by
  obtain ⟨own, ownPort, cs, query, fragment, rfl⟩ := exists_assemble_of_http hu hscheme
  have htext : ((assemble true "http" (some own) ownPort (pathOf true cs) query fragment).onHost
      server).toList = "http://".toList ++ (server.toList ++ (pathOf true cs).text.toList ++
        (RequestTarget.querySuffix (query.map (encodePart (escapedInQuery true)))).toList ++
        (fragmentSuffix (fragment.map (encodePart escapedInFragment))).toList) := by
    unfold onHost assemble
    simp only [String.toList_append, List.append_assoc]
  have hnumber : ∀ q ∈ query.map (encodePart (escapedInQuery true)), ∀ c ∈ q.toList, c ≠ '#' := by
    intro q hq c hc
    obtain ⟨_, -, rfl⟩ := Option.map_eq_some_iff.mp hq
    exact (RequestTarget.isQueryChar_of_isUnescaped (isUnescaped_query hc)).2
  rw [parse?_http htext, authorityAndPath?_printed hserver cs _ hnumber]
  · unfold assemble
    rw [map_encodePart isUnescaped_query, map_encodePart (isUnescaped_of_mem (by decide))]
  · intro c hc
    rcases List.mem_append.mp hc with hc | hc
    · rcases List.mem_append.mp hc with hc | hc
      · rcases List.mem_append.mp hc with hc | hc
        · exact (hserver.chars c hc).1
        · exact isOuterBlank_of_isUnescaped (by decide) ((pathWritten_pathOf cs).chars c hc)
      · exact isOuterBlank_of_mem_query hc
    · exact isOuterBlank_of_mem_fragment hc
  · obtain ⟨first, rest, hfirst⟩ := hserver.exists_cons
    intro c hc
    rw [hfirst] at hc
    cases hc
    exact (hserver.chars first (by rw [hfirst]; exact List.mem_cons_self)).2.1

end WebUrl

end PagePreview
