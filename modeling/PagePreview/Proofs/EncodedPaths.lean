import PagePreview.Proofs.EncodedText
import PagePreview.Proofs.FirstMatch
import PagePreview.Proofs.FixtureNames
import PagePreview.Proofs.PageNames
import PagePreview.Proofs.UpstreamTarget

/-!
# Encoded paths

Whoever asks for a path writes its text into a request target. What a target may not hold has to be
escaped, and everything else may be. Then the text is what the decoded path says, and what was
written, path and query, is kept as it is. So every text can be asked for, in any of its written
forms that is no longer than a target may be: no page, fixture or rule is out of reach because of
its characters.
-/

namespace PagePreview

namespace Ascii

/-- A character that is no letter is the lower-case form of itself only. -/
theorem eq_of_lower {c d : Char} (h : lower c = d) (hd : isLetter d = false) : c = d := by
  by_cases hc : c.toNat < 0x80
  · have hcases := forall_lt (P := fun c => isLetter (lower c) = true ∨ lower c = c) (by decide) hc
    rcases hcases with hletter | hself
    · rw [h, hd] at hletter
      cases hletter
    · rw [← hself, h]
  · rwa [lower_of_high hc] at h

/-- The same for texts. -/
theorem eq_of_map_lower {cs ds : List Char} (h : cs.map lower = ds)
    (hd : ∀ d ∈ ds, isLetter d = false) : cs = ds := by
  subst h
  induction cs with
  | nil => rfl
  | cons c cs ih =>
    obtain ⟨hc, hcs⟩ := List.forall_mem_cons.mp hd
    rw [List.map_cons, ← ih hcs, ← eq_of_lower rfl hc]

end Ascii

namespace RequestTarget

/-! ## What may stand in a path -/

/-- A byte that may stand for itself in a path: a target may hold it there, and it neither begins an
escape nor ends the path. -/
def standsForItself (b : UInt8) : Bool :=
  isPathChar (Char.ofNat b.toNat) && b != 0x25 && b != 0x3F && b != 0x23

/-- A way to write a text in a path. -/
def Spells (spelled text : String) : Prop :=
  Percent.Written standsForItself (Utf8.encode text) (Utf8.encode spelled)

/-- Every text can be written in a path: each of its bytes may be escaped. -/
theorem exists_spells (text : String) : ∃ spelled, Spells spelled text := by
  refine ⟨String.ofList ((Utf8.encode text).flatMap Percent.escapeByte), ?_⟩
  unfold Spells
  rw [Utf8.encode.eq_def (String.ofList _), String.toList_ofList]
  exact Percent.written_escapeByte _ _

/-- A character of ASCII is its own byte. -/
theorem exists_byte_of_mem {c : Char} {text : String} (hc : c ∈ text.toList)
    (hlow : c.toNat < 0x80) : ∃ b ∈ Utf8.encode text, b.toNat = c.toNat := by
  have hbyte : ∃ b ∈ String.utf8EncodeChar c, b.toNat = c.toNat :=
    Ascii.forall_lt (P := fun c => ∃ b ∈ String.utf8EncodeChar c, b.toNat = c.toNat)
      (by decide) hlow
  obtain ⟨b, hb, hvalue⟩ := hbyte
  exact ⟨b, List.mem_flatMap.mpr ⟨c, hc, hb⟩, hvalue⟩

/-- A byte that stands for itself may be written in a path, and ends none. -/
theorem pathChar_of_standsForItself : ∀ n < 0x80, standsForItself (UInt8.ofNat n) = true →
    isPathChar (Char.ofNat n) ∧ Char.ofNat n ≠ '?' ∧ Char.ofNat n ≠ '#' := by
  decide

/-- A digit of an escape may be written in a path, and ends none. -/
theorem pathChar_of_isHexDigit {n : Nat} {b : UInt8} (h : Percent.IsHexDigit n b) :
    isPathChar (Char.ofNat b.toNat) ∧ Char.ofNat b.toNat ≠ '?' ∧ Char.ofNat b.toNat ≠ '#' := by
  have hupper : ∀ n < 16, ∀ b, b = UInt8.ofNat (Ascii.upperHexDigit n).toNat →
      isPathChar (Char.ofNat b.toNat) ∧ Char.ofNat b.toNat ≠ '?' ∧ Char.ofNat b.toNat ≠ '#' := by
    simp only [forall_eq]
    decide
  have hlower : ∀ n < 16, ∀ b, b = UInt8.ofNat (Ascii.lowerHexDigit n).toNat →
      isPathChar (Char.ofNat b.toNat) ∧ Char.ofNat b.toNat ≠ '?' ∧ Char.ofNat b.toNat ≠ '#' := by
    simp only [forall_eq]
    decide
  obtain ⟨hn, hb | hb⟩ := h
  · exact hupper n hn b hb
  · exact hlower n hn b hb

/-- However a text is written, it may stand in a path. -/
theorem Spells.pathWritten {spelled text : String} (h : Spells spelled text) :
    PathWritten spelled := by
  intro c hc
  by_cases hlow : c.toNat < 0x80
  · obtain ⟨b, hb, hvalue⟩ := exists_byte_of_mem hc hlow
    have hself : Char.ofNat b.toNat = c := by
      rw [hvalue]
      exact Char.ofNat_toNat c
    rcases Percent.Written.mem h hb with hfree | rfl | ⟨n, hdigit⟩
    · have hchar := pathChar_of_standsForItself b.toNat (by omega)
      rw [UInt8.ofNat_toNat, hself] at hchar
      exact hchar hfree
    · rw [← hself]
      decide
    · rw [← hself]
      exact pathChar_of_isHexDigit hdigit
  · refine ⟨?_, ?_, ?_⟩
    · have hhigh : 0x80 ≤ c.toNat := Nat.not_lt.mp hlow
      simp [isPathChar, hhigh]
    · rintro rfl
      exact hlow (by decide)
    · rintro rfl
      exact hlow (by decide)

/-- A slash before a text is written as it is. -/
theorem Spells.slash {spelled text : String} (h : Spells spelled text) :
    Spells ("/" ++ spelled) ("/" ++ text) := by
  unfold Spells
  rw [Utf8.encode_append, Utf8.encode_append]
  exact .literal (by decide) h

/-- The decoded path is the text that is written in the path. -/
theorem Spells.decodedPath_eq {spelled text : String} (h : Spells spelled text)
    {t : RequestTarget} (hpath : t.path = "/" ++ spelled) : t.decodedPath = "/" ++ text := by
  unfold decodedPath
  rw [hpath]
  exact h.slash.decodeText_eq (by decide)

/-! ## What is kept of a target -/

/-- A target stands in a text: behind a scheme and an authority, if there are any, come path and
query as they are kept, and then nothing but a fragment. -/
def StandsIn (t : RequestTarget) (text : String) : Prop :=
  ∃ front fragment, text = front ++ (t.rawPath ++ querySuffix t.query) ++ fragment ∧
    (front = "" ∨ ∃ scheme, front = scheme ++ "://" ++ t.authority) ∧
    (fragment = "" ∨ ∃ rest, fragment = "#" ++ rest)

/-- Behind a query stands a fragment, if anything. -/
theorem fragment_of_dropWhile (after : List Char) :
    String.ofList (after.dropWhile (· != '#')) = "" ∨
      ∃ rest, String.ofList (after.dropWhile (· != '#')) = "#" ++ rest := by
  cases hfragment : after.dropWhile (· != '#') with
  | nil => exact .inl rfl
  | cons c cs =>
    have hhead : c ∈ (after.dropWhile (· != '#')).head? := by
      rw [hfragment]
      rfl
    have hc := Text.eq_false_of_mem_head?_dropWhile hhead
    refine .inr ⟨String.ofList cs, ?_⟩
    rw [bne_eq_false_iff_eq.mp hc]
    apply String.toList_injective
    simp

/-- What is read as path and query is the text up to its fragment. -/
theorem exists_fragment_of_takePath {cs : List Char} {path : String} {query : Option String}
    (h : takePath cs = .ok (path, query)) :
    ∃ fragment : String, cs = (path ++ querySuffix query ++ fragment).toList ∧
      (fragment = "" ∨ ∃ rest, fragment = "#" ++ rest) := by
  unfold takePath at h
  rw [List.span_eq_takeWhile_dropWhile] at h
  dsimp only at h
  have hcut := List.takeWhile_append_dropWhile (p := fun c => c != '?' && c != '#') (l := cs)
  have hstop : ∀ c ∈ (cs.dropWhile fun c => c != '?' && c != '#').head?, c = '?' ∨ c = '#' := by
    intro c hc
    have hc := Text.eq_false_of_mem_head?_dropWhile hc
    simpa [Decidable.imp_iff_not_or] using hc
  generalize cs.takeWhile (fun c => c != '?' && c != '#') = front at h hcut
  generalize cs.dropWhile (fun c => c != '?' && c != '#') = rest at h hcut hstop
  by_cases hpath : (!front.all isPathChar) = true
  · rw [if_pos hpath] at h
    cases h
  rw [if_neg hpath] at h
  cases rest with
  | nil =>
    cases h
    refine ⟨"", ?_, .inl rfl⟩
    rw [← hcut]
    simp [querySuffix]
  | cons c after =>
    rcases hstop c rfl with rfl | rfl
    · simp only at h
      by_cases hquery : (after.takeWhile (· != '#')).all isQueryChar = true
      · rw [if_pos hquery] at h
        cases h
        have hafter := List.takeWhile_append_dropWhile (p := fun c => c != '#') (l := after)
        refine ⟨String.ofList (after.dropWhile (· != '#')), ?_, fragment_of_dropWhile after⟩
        rw [← hcut, String.toList_append, String.toList_append, toList_querySuffix,
          String.toList_ofList, String.toList_ofList, String.toList_ofList, List.append_assoc,
          List.cons_append, hafter]
      · rw [if_neg hquery] at h
        cases h
    · cases h
      refine ⟨String.ofList ('#' :: after), ?_, .inr ⟨String.ofList after, ?_⟩⟩
      · rw [← hcut]
        simp [querySuffix]
      · apply String.toList_injective
        simp

/-- A known scheme may be written in any case. -/
theorem exists_of_dropKnownScheme {cs rest : List Char} {name : String}
    (h : dropKnownScheme cs = some (name, rest)) :
    ∃ written, cs = written ++ ("://".toList ++ rest) := by
  unfold dropKnownScheme at h
  obtain ⟨known, -, h⟩ := List.exists_of_findSome?_eq_some h
  dsimp only at h
  by_cases hfront : (cs.take (known ++ "://").toList.length).map Ascii.lower =
      (known ++ "://").toList
  · rw [if_pos hfront] at h
    cases h
    obtain ⟨written, mark, hwritten, -, hmark⟩ :=
      List.map_eq_append_iff.mp (hfront.trans String.toList_append)
    have hplain := Ascii.eq_of_map_lower hmark (by simp [Ascii.isLetter])
    refine ⟨written, ?_⟩
    rw [← List.append_assoc, ← hplain, ← hwritten, List.take_append_drop]
  · rw [if_neg hfront] at h
    cases h

/-- Whatever scheme is read, the text begins with it, in whatever case it was written. -/
theorem exists_of_dropScheme {cs rest : List Char} {name : String}
    (h : dropScheme cs = .ok (some (name, rest))) :
    ∃ written, cs = written ++ ("://".toList ++ rest) := by
  revert h
  fun_cases dropScheme cs with
  | case1 known hknown =>
    intro h
    cases h
    exact exists_of_dropKnownScheme hknown
  | case2 => exact nofun
  | case3 => exact nofun
  | case4 _ front after _ _ hspan =>
    intro h
    cases h
    rw [List.span_eq_takeWhile_dropWhile] at hspan
    obtain ⟨hfront, hafter⟩ := Prod.mk.inj hspan
    refine ⟨front, ?_⟩
    rw [← hfront]
    exact (List.takeWhile_append_dropWhile.symm).trans (congrArg _ hafter)
  | case5 => exact nofun

/-- An authority is cut off the front as it is. -/
theorem append_of_takeAuthority {cs authority rest : List Char}
    (h : takeAuthority cs = .ok (authority, rest)) : cs = authority ++ rest := by
  unfold takeAuthority at h
  rw [List.span_eq_takeWhile_dropWhile] at h
  obtain ⟨seen, -, h⟩ := exists_of_bind_ok h
  split at h
  · cases h
    exact List.takeWhile_append_dropWhile.symm
  · cases h

/-- A URL that has a path stands in its text. -/
theorem standsIn_of_parseFull {text : String} {t : RequestTarget}
    (h : parseFull text.toList = .ok t) (hpath : t.path ≠ "") : t.StandsIn text := by
  unfold parseFull at h
  obtain ⟨found, hscheme, h⟩ := exists_of_bind_ok h
  rcases found with _ | ⟨name, _ | ⟨c, rest⟩⟩
  · obtain ⟨⟨authority, after⟩, -, h⟩ := exists_of_bind_ok h
    dsimp only at h
    split at h
    · cases h
      exact absurd rfl hpath
    · cases h
  · cases h
  · obtain ⟨⟨authority, after⟩, hauthority, h⟩ := exists_of_bind_ok h
    dsimp only at h
    split at h
    · cases h
    obtain ⟨⟨path, query⟩, htake, h⟩ := exists_of_bind_ok h
    cases h
    obtain ⟨written, htext⟩ := exists_of_dropScheme hscheme
    obtain ⟨fragment, hafter, hfragment⟩ := exists_fragment_of_takePath htake
    refine ⟨String.ofList written ++ "://" ++ String.ofList authority, fragment, ?_, .inr ⟨_, rfl⟩,
      hfragment⟩
    apply String.toList_injective
    rw [htext, append_of_takeAuthority hauthority, hafter]
    simp

/-- A target that is read stands in its text, unless it has no path. -/
theorem standsIn_of_parse {text : String} {t : RequestTarget} (h : parse text = .ok t)
    (hpath : t.path ≠ "") : t.StandsIn text := by
  revert h
  fun_cases parse text with
  | case1 =>
    intro h
    cases h
  | case2 =>
    intro h
    cases h
  | case3 _ htext =>
    intro h
    cases h
    refine ⟨"", "", ?_, .inl rfl, .inl rfl⟩
    apply String.toList_injective
    rw [htext]
    rfl
  | case4 _ rest htext =>
    intro h
    obtain ⟨⟨path, query⟩, htake, rfl⟩ := exists_of_map_ok h
    obtain ⟨fragment, hwritten, hfragment⟩ := exists_fragment_of_takePath htake
    refine ⟨"", fragment, ?_, .inl rfl, hfragment⟩
    apply String.toList_injective
    rw [htext, hwritten]
    simp
  | case5 =>
    intro h
    cases h
  | case6 _ c _ _ htext =>
    intro h
    exact standsIn_of_parseFull (htext ▸ h) hpath
  | case7 =>
    intro h
    exact standsIn_of_parseFull h hpath

/-- Path and query are kept as they are written behind the slash of the path. A URL may leave the
path `/` out; then its query is kept alone, and the path only if there is no query. -/
def Keeps (t : RequestTarget) (spelled : String) : Prop :=
  (t.rawPath = "/" ++ spelled ∧ t.raw = "/" ++ spelled ++ querySuffix t.query) ∨
    (t.rawPath = "" ∧ spelled = "" ∧
      (t.raw = querySuffix t.query ∨ t.query = none ∧ t.raw = "/"))

/-- A path that begins with a slash is not empty. -/
theorem slash_append_ne_empty (s : String) : "/" ++ s ≠ "" := by
  intro hempty
  have hchars := congrArg String.toList hempty
  rw [String.toList_append] at hchars
  cases hchars

/-- A target keeps path and query as they were written behind the slash of its path. -/
theorem keeps_of_path {t : RequestTarget} {spelled : String} (h : t.path = "/" ++ spelled) :
    t.Keeps spelled := by
  unfold path at h
  by_cases hempty : t.rawPath = "" ∧ t.scheme.isSome
  · rw [if_pos hempty] at h
    have hspelled : spelled = "" := by
      apply String.toList_injective
      have htext := congrArg String.toList h
      rw [String.toList_append] at htext
      exact (List.cons.inj htext).2.symm
    refine .inr ⟨hempty.1, hspelled, ?_⟩
    unfold raw
    rw [hempty.1, String.empty_append]
    cases t.query with
    | none => exact .inr ⟨rfl, if_pos ⟨rfl, hempty.2⟩⟩
    | some q =>
      refine .inl (if_neg fun hnone => ?_)
      have htext := congrArg String.toList hnone.1
      rw [toList_querySuffix] at htext
      cases htext
  · rw [if_neg hempty] at h
    refine .inl ⟨h, ?_⟩
    unfold raw
    rw [h, String.append_assoc]
    exact if_neg fun hnone => slash_append_ne_empty _ hnone.1

/-- The decoded path is among the forms of the path that rules are tried on. -/
theorem decodedPath_mem_candidates (t : RequestTarget) : t.decodedPath ∈ t.candidates := by
  unfold candidates
  by_cases hsame : t.raw = t.decodedPath
  · rw [if_pos hsame, hsame]
    exact List.mem_singleton_self _
  · rw [if_neg hsame]
    simp

/-- A path with a query is a target unless it is too long. -/
theorem Spells.parse_eq {spelled text : String} (h : Spells spelled text) {query : Option String}
    (hquery : ∀ q, query = some q → QueryWritten q) :
    parse ("/" ++ spelled ++ querySuffix query) =
      if ("/" ++ spelled ++ querySuffix query).utf8ByteSize ≤ maxBytes then
        .ok ⟨none, "", "/" ++ spelled, query⟩ else .error .tooLong := by
  by_cases hlength : ("/" ++ spelled ++ querySuffix query).utf8ByteSize ≤ maxBytes
  · rw [if_pos hlength]
    exact parse_written ⟨spelled.toList, String.toList_append⟩ h.slash.pathWritten hquery hlength
  · rw [if_neg hlength]
    unfold parse
    rw [if_pos (Nat.not_le.mp hlength)]

/-- Whatever a text is, there are ways to write it in a path. Whichever is chosen, and whatever
else stands in the target, the decoded path is the text, path and query are kept as they were
written, and every rule whose pattern fits the text matches. Every such path, with any query, is a
target unless it is too long. All paths of pages and fixtures are among these texts. -/
theorem encoded_text_is_decoded (text : String) :
    (∃ spelled, Spells spelled text) ∧
    (∀ spelled written t, Spells spelled text → parse written = .ok t → t.path = "/" ++ spelled →
      t.decodedPath = "/" ++ text ∧ t.StandsIn written ∧ t.Keeps spelled ∧
      ∀ rule : Rule, (rule.captures ("/" ++ text)).isSome → rule.Matches t) ∧
    (∀ spelled query, Spells spelled text → (∀ q, query = some q → QueryWritten q) →
      parse ("/" ++ spelled ++ querySuffix query) =
        if ("/" ++ spelled ++ querySuffix query).utf8ByteSize ≤ maxBytes then
          .ok ⟨none, "", "/" ++ spelled, query⟩ else .error .tooLong) ∧
    (∀ path page, PageRef.ofPath? path = some page → ∃ inner, path = "/" ++ inner) ∧
    ∀ path fixture, FixtureRef.ofPath? path = some fixture → ∃ inner, path = "/" ++ inner := by
  refine ⟨exists_spells text, ?_, fun spelled query h hquery => h.parse_eq hquery, ?_, ?_⟩
  · intro spelled written t h hparse hpath
    have hdecoded := h.decodedPath_eq hpath
    have hsome : t.path ≠ "" := hpath ▸ slash_append_ne_empty spelled
    refine ⟨hdecoded, standsIn_of_parse hparse hsome, keeps_of_path hpath, fun rule hrule => ?_⟩
    exact ⟨_, t.decodedPath_mem_candidates, hdecoded ▸ hrule⟩
  · intro path page h
    obtain ⟨keyword, name, hwritten, -⟩ := PageRef.ofPath?_eq_some_iff.mp h
    refine ⟨page.namespaceName ++ "/" ++ keyword ++ "/" ++ name, ?_⟩
    rw [hwritten.text]
    simp only [String.append_assoc]
  · intro path fixture h
    obtain ⟨tail, hasked⟩ := FixtureRef.ofPath?_eq_some_iff.mp h
    obtain ⟨place, -, hpath⟩ := hasked.place
    refine ⟨place ++ "/" ++ fixture.path, ?_⟩
    rw [hpath]
    simp only [String.append_assoc]

/-- An escaped percent sign does not begin another escape, and the query is not decoded. -/
example : (parse "HTTP://h/%c3%A9%2541+?x=%41#f").toOption.map (fun t => (t.decodedPath, t.raw)) =
    some ("/é%41+", "/%c3%A9%2541+?x=%41") := by decide +kernel

end RequestTarget

end PagePreview
