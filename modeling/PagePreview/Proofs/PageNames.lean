import PagePreview.Fixture.PageSlices
import PagePreview.Proofs.LetterCase
import PagePreview.Proofs.Words

/-!
# How the path of a page is written

The path of a page is a namespace, the word `page` and a name, with a slash in front of each. It is
read exactly if it is written so, in one way only, and one `.tpl` at the end of the name is dropped.
Reading it in slices of its bytes cuts between characters only and gives the same page.
-/

namespace PagePreview

namespace Text

/-! ## Cuts at offsets in bytes -/

/-- A text is cut at the offset where its front ends. -/
theorem cutAt_eq_ok_iff {text front back : String} {offset : Nat} :
    cutAt text offset = .ok (front, back) ↔
      text = front ++ back ∧ (Utf8.encode front).length = offset := by
  constructor
  · intro h
    revert h
    fun_cases cutAt text offset with
    | case1 _ front' back' hback hfront hoffset =>
      intro h
      obtain ⟨rfl, rfl⟩ := Prod.mk.inj (Except.ok.inj h)
      rw [Utf8.decode?_eq_some_iff] at hfront hback
      constructor
      · apply Utf8.encode_injective
        rw [Utf8.encode_append, ← hfront, ← hback, List.take_append_drop]
      · rw [← hfront, List.length_take, Nat.min_eq_left hoffset]
    | case2 => exact nofun
    | case3 => exact nofun
  · rintro ⟨rfl, rfl⟩
    unfold cutAt
    dsimp only
    rw [Utf8.encode_append, List.take_left, List.drop_left, Utf8.decode?_eq_some_iff.mpr rfl,
      Utf8.decode?_eq_some_iff.mpr rfl]
    dsimp only
    rw [if_pos (by simp)]

/-- The byte of a slash stands in the bytes of a text only for a slash. -/
theorem slash_notMem_encode {text : String} (h : '/' ∉ text.toList) :
    0x2F ∉ Utf8.encode text :=
  fun hmem => h (Utf8.mem_of_mem_encode (by decide) hmem)

/-- A slash between two texts is its byte between their bytes. -/
theorem encode_slash (front back : String) :
    Utf8.encode (front ++ "/" ++ back) = Utf8.encode front ++ 0x2F :: Utf8.encode back := by
  rw [Utf8.encode_append, Utf8.encode_append, List.append_assoc]
  rfl

/-- A text without a slash is not cut. -/
theorem splitSlash_of_notMem {text : String} (h : '/' ∉ text.toList) :
    splitSlash text = .ok none := by
  have hplace : (Utf8.encode text).idxOf 0x2F = (Utf8.encode text).length :=
    List.idxOf_eq_length (slash_notMem_encode h)
  unfold splitSlash
  dsimp only
  rw [if_pos hplace]
  rfl

/-- A text is cut around its first slash. -/
theorem splitSlash_append {front : String} (h : '/' ∉ front.toList) (back : String) :
    splitSlash (front ++ "/" ++ back) = .ok (some (front, back)) := by
  have hplace : (Utf8.encode (front ++ "/" ++ back)).idxOf 0x2F = (Utf8.encode front).length := by
    rw [encode_slash, List.idxOf_append, if_neg (slash_notMem_encode h), List.idxOf_cons_self,
      Nat.zero_add]
  have hbefore : cutAt (front ++ "/" ++ back) (Utf8.encode front).length =
      .ok (front, "/" ++ back) := cutAt_eq_ok_iff.mpr ⟨String.append_assoc, rfl⟩
  have hbehind : cutAt (front ++ "/" ++ back) ((Utf8.encode front).length + 1) =
      .ok (front ++ "/", back) := by
    apply cutAt_eq_ok_iff.mpr
    rw [Utf8.encode_append, List.length_append]
    exact ⟨rfl, rfl⟩
  have hfound : (Utf8.encode front).length ≠ (Utf8.encode (front ++ "/" ++ back)).length := by
    rw [encode_slash, List.length_append, List.length_cons]
    omega
  unfold splitSlash
  dsimp only
  rw [hplace, if_neg hfound, hbefore, hbehind]
  rfl

end Text

namespace PageRef

/-- A path is written as that of a page. -/
structure Written (path namespaceName keyword name : String) : Prop where
  /-- The three parts, each behind a slash. -/
  text : path = "/" ++ namespaceName ++ "/" ++ keyword ++ "/" ++ name
  /-- There is a namespace. -/
  ne_empty : namespaceName ≠ ""
  /-- The namespace has letters, numbers, underscores and hyphens only. -/
  plain : ∀ c ∈ namespaceName.toList, Unicode.isAlphanumeric c = true ∨ c = '_' ∨ c = '-'
  /-- The keyword is `page` in any case. -/
  keyword : Ascii.sameIgnoringCase keyword "page" = true

/-- The four characters `.tpl` in any case. -/
def IsTemplateSuffix (suffix : String) : Prop := Ascii.sameIgnoringCase suffix ".tpl" = true

/-- The name of a page as it is written, and without `.tpl` at its end. -/
def Shortened (name page : String) : Prop :=
  (∃ suffix, IsTemplateSuffix suffix ∧ name = page ++ suffix) ∨
    page = name ∧ ∀ stem suffix, IsTemplateSuffix suffix → name ≠ stem ++ suffix

/-! ## The parts of a path -/

/-- What stands before the first slash is cut off. -/
theorem cut?_append {front : List Char} (hfront : '/' ∉ front) (rest : List Char) :
    cut? (front ++ '/' :: rest) = some (front, rest) := by
  obtain ⟨htake, hdrop⟩ := Text.takeWhile_dropWhile_bne hfront rest
  unfold cut?
  rw [List.span_eq_takeWhile_dropWhile, htake, hdrop]

/-- Without a slash nothing is cut off. -/
theorem cut?_eq_none {cs : List Char} (h : '/' ∉ cs) : cut? cs = none := by
  obtain ⟨htake, hdrop⟩ := Text.takeWhile_dropWhile_of_notMem h
  unfold cut?
  rw [List.span_eq_takeWhile_dropWhile, htake, hdrop]

/-- A text has no slash, or a first one. -/
theorem notMem_or_exists_slash (text : String) :
    '/' ∉ text.toList ∨ ∃ front back, text = front ++ "/" ++ back ∧ '/' ∉ front.toList := by
  by_cases h : '/' ∈ text.toList
  · obtain ⟨front, back, htext, hfront⟩ := List.eq_append_cons_of_mem h
    refine Or.inr ⟨String.ofList front, String.ofList back, ?_, by simpa using hfront⟩
    rw [← String.toList_inj, htext]
    simp
  · exact Or.inl h

/-- The characters of two texts with a slash between them. -/
theorem toList_slash (front back : String) :
    (front ++ "/" ++ back).toList = front.toList ++ '/' :: back.toList := by simp

/-- A text is cut where its first slash is, and nowhere else. -/
theorem cut?_eq_some_iff {cs front rest : List Char} :
    cut? cs = some (front, rest) ↔ cs = front ++ '/' :: rest ∧ '/' ∉ front := by
  constructor
  · intro h
    by_cases hslash : '/' ∈ cs
    · obtain ⟨before, behind, rfl, hbefore⟩ := List.eq_append_cons_of_mem hslash
      rw [cut?_append hbefore] at h
      obtain ⟨rfl, rfl⟩ := Prod.mk.inj (Option.some.inj h)
      exact ⟨rfl, hbefore⟩
    · rw [cut?_eq_none hslash] at h
      cases h
  · rintro ⟨rfl, hfront⟩
    exact cut?_append hfront rest

/-- No character of a namespace is a slash. -/
theorem ne_slash_of_isNamespaceChar {c : Char} (h : isNamespaceChar c = true) : c ≠ '/' := by
  rintro rfl
  exact absurd h (by decide)

/-- The characters of a namespace are letters, numbers, underscores and hyphens. -/
theorem isNamespaceChar_iff {c : Char} : isNamespaceChar c = true ↔
    Unicode.isAlphanumeric c = true ∨ c = '_' ∨ c = '-' := by
  unfold isNamespaceChar
  rw [Bool.or_eq_true, Bool.or_eq_true, beq_iff_eq, beq_iff_eq, or_assoc]

/-- A namespace has no slash. -/
theorem Written.slash_notMem_namespace {path namespaceName keyword name : String}
    (h : Written path namespaceName keyword name) : '/' ∉ namespaceName.toList := by
  intro hmem
  exact ne_slash_of_isNamespaceChar (isNamespaceChar_iff.mpr (h.plain _ hmem)) rfl

/-- The keyword has no slash. -/
theorem Written.slash_notMem_keyword {path namespaceName keyword name : String}
    (h : Written path namespaceName keyword name) : '/' ∉ keyword.toList := by
  intro hmem
  exact absurd (Ascii.lower_mem_of_sameIgnoringCase h.keyword hmem) (by decide)

/-- The characters of a path that is written as that of a page. -/
theorem Written.toList {path namespaceName keyword name : String}
    (h : Written path namespaceName keyword name) :
    path.toList =
      '/' :: (namespaceName.toList ++ '/' :: (keyword.toList ++ '/' :: name.toList)) := by
  rw [h.text]
  simp

/-- A path is written as that of a page in one way only. -/
theorem Written.unique {path namespaceName keyword name namespaceName' keyword' name' : String}
    (h : Written path namespaceName keyword name)
    (h' : Written path namespaceName' keyword' name') :
    namespaceName = namespaceName' ∧ keyword = keyword' ∧ name = name' := by
  have hparts := h.toList.symm.trans h'.toList
  have houter : some (namespaceName.toList, keyword.toList ++ '/' :: name.toList) =
      some (namespaceName'.toList, keyword'.toList ++ '/' :: name'.toList) := by
    rw [← cut?_append h.slash_notMem_namespace, (List.cons.inj hparts).2,
      cut?_append h'.slash_notMem_namespace]
  obtain ⟨hspace, hrest⟩ := Prod.mk.inj (Option.some.inj houter)
  have hinner : some (keyword.toList, name.toList) = some (keyword'.toList, name'.toList) := by
    rw [← cut?_append h.slash_notMem_keyword, hrest, cut?_append h'.slash_notMem_keyword]
  obtain ⟨hkeyword, hname⟩ := Prod.mk.inj (Option.some.inj hinner)
  exact ⟨String.toList_inj.mp hspace, String.toList_inj.mp hkeyword, String.toList_inj.mp hname⟩

/-! ## The end of the name -/

/-- One `.tpl` at the end is dropped. -/
theorem dropTemplateSuffix_append (stem : List Char) {suffix : String}
    (h : IsTemplateSuffix suffix) : dropTemplateSuffix (stem ++ suffix.toList) = stem := by
  have hcut : (stem ++ suffix.toList).length - 4 = stem.length := by
    rw [List.length_append, Ascii.length_of_sameIgnoringCase h]
    exact Nat.add_sub_cancel stem.length 4
  unfold dropTemplateSuffix
  dsimp only
  rw [hcut, List.take_left, List.drop_left]
  exact if_pos (Ascii.sameIgnoringCase_iff.mp h)

/-- Without `.tpl` at the end nothing is dropped. -/
theorem dropTemplateSuffix_eq_self {name : String}
    (h : ∀ stem suffix, IsTemplateSuffix suffix → name ≠ stem ++ suffix) :
    dropTemplateSuffix name.toList = name.toList := by
  unfold dropTemplateSuffix
  dsimp only
  rw [if_neg]
  intro hsuffix
  apply h (String.ofList (name.toList.take (name.toList.length - 4)))
    (String.ofList (name.toList.drop (name.toList.length - 4)))
  · apply Ascii.sameIgnoringCase_iff.mpr
    rw [String.toList_ofList, hsuffix]
    rfl
  · rw [← String.ofList_append, List.take_append_drop, String.ofList_toList]

/-- A name ends in `.tpl`, or it does not. -/
theorem exists_suffix_or (name : String) :
    (∃ stem suffix, IsTemplateSuffix suffix ∧ name = stem ++ suffix) ∨
      ∀ stem suffix, IsTemplateSuffix suffix → name ≠ stem ++ suffix := by
  by_cases h : ∃ stem suffix, IsTemplateSuffix suffix ∧ name = stem ++ suffix
  · exact Or.inl h
  · exact Or.inr fun stem suffix hs he => h ⟨stem, suffix, hs, he⟩

/-- The name without `.tpl` is what is left when the suffix is dropped. -/
theorem shortened_iff {name page : String} :
    Shortened name page ↔ page = String.ofList (dropTemplateSuffix name.toList) := by
  rcases exists_suffix_or name with ⟨stem, suffix, hs, rfl⟩ | hno
  · rw [String.toList_append, dropTemplateSuffix_append stem.toList hs, String.ofList_toList]
    constructor
    · rintro (⟨other, ho, he⟩ | ⟨-, hno⟩)
      · have hdrop := dropTemplateSuffix_append page.toList ho
        rw [← String.toList_append, ← he, String.toList_append,
          dropTemplateSuffix_append stem.toList hs] at hdrop
        exact String.toList_inj.mp hdrop.symm
      · exact absurd rfl (hno stem suffix hs)
    · rintro rfl
      exact Or.inl ⟨suffix, hs, rfl⟩
  · rw [dropTemplateSuffix_eq_self hno, String.ofList_toList]
    constructor
    · rintro (⟨suffix, hs, he⟩ | ⟨he, -⟩)
      · exact absurd he (hno page suffix hs)
      · exact he
    · rintro rfl
      exact Or.inr ⟨rfl, hno⟩

/-! ## Reading the path -/

/-- A path that is written as that of a page is read as that page. -/
theorem ofPath?_of_written {path namespaceName keyword name : String}
    (h : Written path namespaceName keyword name) :
    ofPath? path = some ⟨namespaceName, String.ofList (dropTemplateSuffix name.toList)⟩ := by
  have hspace : (!namespaceName.toList.isEmpty && namespaceName.toList.all isNamespaceChar &&
      keyword.toList.map Ascii.lower == "page".toList) = true := by
    rw [Bool.and_eq_true, Bool.and_eq_true, Bool.not_eq_true', List.isEmpty_eq_false_iff,
      List.all_eq_true, beq_iff_eq]
    refine ⟨⟨mt String.toList_eq_nil_iff.mp h.ne_empty, ?_⟩,
      Ascii.sameIgnoringCase_iff.mp h.keyword⟩
    exact fun c hc => isNamespaceChar_iff.mpr (h.plain c hc)
  unfold ofPath?
  rw [h.toList]
  simp only
  rw [cut?_append h.slash_notMem_namespace, Option.bind_eq_bind, Option.bind_some]
  dsimp only
  rw [cut?_append h.slash_notMem_keyword, Option.bind_some]
  dsimp only
  rw [if_pos hspace, String.ofList_toList]

/-- A path that a page is read from is written as that of the page. -/
theorem exists_written_of_ofPath? {path : String} {page : PageRef} (h : ofPath? path = some page) :
    ∃ keyword name, Written path page.namespaceName keyword name := by
  revert h
  fun_cases ofPath? path with
  | case1 rest hpath =>
    intro h
    obtain ⟨⟨space, more⟩, hspace, hmore⟩ := Option.bind_eq_some_iff.mp h
    obtain ⟨⟨keyword, name⟩, hkeyword, hread⟩ := Option.bind_eq_some_iff.mp hmore
    obtain ⟨rfl, -⟩ := cut?_eq_some_iff.mp hspace
    obtain ⟨rfl, -⟩ := cut?_eq_some_iff.mp hkeyword
    dsimp only at hread
    by_cases hparts : (!space.isEmpty && space.all isNamespaceChar &&
        keyword.map Ascii.lower == "page".toList) = true
    · rw [if_pos hparts] at hread
      obtain rfl := Option.some.inj hread
      rw [Bool.and_eq_true, Bool.and_eq_true, Bool.not_eq_true', List.isEmpty_eq_false_iff,
        List.all_eq_true, beq_iff_eq] at hparts
      obtain ⟨⟨hne, hplain⟩, hkeyword⟩ := hparts
      refine ⟨String.ofList keyword, String.ofList name, ⟨?_, ?_, ?_, ?_⟩⟩
      · rw [← String.toList_inj, hpath]
        simp
      · intro he
        apply hne
        rw [← String.toList_eq_nil_iff, String.toList_ofList] at he
        exact he
      · intro c hc
        rw [String.toList_ofList] at hc
        exact isNamespaceChar_iff.mp (hplain c hc)
      · apply Ascii.sameIgnoringCase_iff.mpr
        rw [String.toList_ofList]
        exact hkeyword
    · rw [if_neg hparts] at hread
      cases hread
  | case2 => exact nofun

/-- A page is read from a path exactly if the path is written as that of the page. -/
theorem ofPath?_eq_some_iff {path : String} {page : PageRef} : ofPath? path = some page ↔
    ∃ keyword name, Written path page.namespaceName keyword name ∧ Shortened name page.page := by
  constructor
  · intro h
    obtain ⟨keyword, name, hw⟩ := exists_written_of_ofPath? h
    refine ⟨keyword, name, hw, shortened_iff.mpr ?_⟩
    rw [ofPath?_of_written hw] at h
    rw [← Option.some.inj h]
  · rintro ⟨keyword, name, hw, hs⟩
    rw [ofPath?_of_written hw, ← shortened_iff.mp hs]

/-! ## Reading in slices -/

/-- The suffix that is cut off as bytes is the one that is dropped as characters. -/
theorem cutTemplateSuffix_eq (name : String) :
    cutTemplateSuffix name = String.ofList (dropTemplateSuffix name.toList) := by
  rcases exists_suffix_or name with ⟨stem, suffix, hs, rfl⟩ | hno
  · have hlength : (Utf8.encode (stem ++ suffix)).length = (Utf8.encode stem).length + 4 := by
      rw [Utf8.encode_append, List.length_append, Ascii.length_encode_of_sameIgnoringCase hs]
      rfl
    have hcut : Text.cutAt (stem ++ suffix) (Utf8.encode stem).length = .ok (stem, suffix) :=
      Text.cutAt_eq_ok_iff.mpr ⟨rfl, rfl⟩
    rw [String.toList_append, dropTemplateSuffix_append stem.toList hs, String.ofList_toList]
    unfold cutTemplateSuffix
    dsimp only
    rw [hlength, if_neg (by omega), Nat.add_sub_cancel, hcut]
    exact if_pos hs
  · rw [dropTemplateSuffix_eq_self hno, String.ofList_toList]
    fun_cases cutTemplateSuffix name with
    | case1 => rfl
    | case2 _ _ stem suffix hcut hs =>
      obtain ⟨htext, -⟩ := Text.cutAt_eq_ok_iff.mp hcut
      exact absurd htext (hno stem suffix hs)
    | case3 => rfl
    | case4 => rfl

/-- A text begins with a slash exactly if its bytes begin with the byte of one. -/
theorem head?_encode_slash_iff {path : String} :
    (Utf8.encode path).head? = some 0x2F ↔ ∃ rest, path = "/" ++ rest := by
  constructor
  · intro h
    cases hpath : path.toList with
    | nil =>
      rw [String.toList_eq_nil_iff.mp hpath] at h
      cases h
    | cons c cs =>
      obtain ⟨n, hseq, -⟩ := Utf8.exists_sequence c
      obtain ⟨first, others, hbytes, -⟩ := hseq.exists_first
      have hc : Utf8.encode (String.ofList [c]) = first :: others := by
        simpa [Utf8.encode] using hbytes
      have hsplit : path = String.ofList [c] ++ String.ofList cs := by
        rw [← String.toList_inj, hpath]
        simp
      rw [hsplit, Utf8.encode_append, hc] at h
      have hmem : 0x2F ∈ Utf8.encode (String.ofList [c]) := by
        rw [hc, ← Option.some.inj h]
        exact List.mem_cons_self
      have hslash := Utf8.mem_of_mem_encode (by decide) hmem
      rw [String.toList_ofList, List.mem_singleton] at hslash
      exact ⟨String.ofList cs, by rw [hsplit, ← hslash]; rfl⟩
  · rintro ⟨rest, rfl⟩
    rw [Utf8.encode_append]
    rfl

/-- What is read behind the slash in front of a path. -/
theorem ofPath?_slash (rest : String) : ofPath? ("/" ++ rest) =
    (cut? rest.toList).bind fun parts => (cut? parts.2).bind fun inner =>
      if !parts.1.isEmpty && parts.1.all isNamespaceChar &&
          inner.1.map Ascii.lower == "page".toList then
        some ⟨String.ofList parts.1, String.ofList (dropTemplateSuffix inner.2)⟩
      else none := by
  have hfront : ("/" ++ rest).toList = '/' :: rest.toList := by simp
  unfold ofPath?
  rw [hfront]
  rfl

/-- No slice that is taken begins or ends inside a character, and the page is the one that the
path names. -/
theorem ofSlices?_eq (path : String) : ofSlices? path = .ok (ofPath? path) := by
  unfold ofSlices?
  by_cases hfirst : (Utf8.encode path).head? = some 0x2F
  · obtain ⟨rest, rfl⟩ := head?_encode_slash_iff.mp hfirst
    have hcut : Text.cutAt ("/" ++ rest) 1 = .ok ("/", rest) :=
      Text.cutAt_eq_ok_iff.mpr ⟨rfl, rfl⟩
    rw [if_pos hfirst, hcut, ofPath?_slash]
    rcases notMem_or_exists_slash rest with hno | ⟨name, more, rfl, hname⟩
    · rw [cut?_eq_none hno]
      dsimp only [bind, Except.bind]
      rw [Text.splitSlash_of_notMem hno]
      rfl
    · rw [toList_slash, cut?_append hname, Option.bind_some]
      dsimp only [bind, Except.bind]
      rw [Text.splitSlash_append hname]
      rcases notMem_or_exists_slash more with hno | ⟨keyword, page, rfl, hkeyword⟩
      · rw [cut?_eq_none hno]
        dsimp only
        rw [Text.splitSlash_of_notMem hno]
        split <;> rfl
      · rw [toList_slash, cut?_append hkeyword, Option.bind_some]
        dsimp only
        rw [Text.splitSlash_append hkeyword, String.ofList_toList, ← cutTemplateSuffix_eq]
        dsimp only
        have hempty : name.toList.isEmpty = name.isEmpty := by
          rw [Bool.eq_iff_iff, List.isEmpty_iff, String.toList_eq_nil_iff, String.isEmpty_iff]
        have hcase : (keyword.toList.map Ascii.lower == "page".toList) =
            Ascii.sameIgnoringCase keyword "page" := rfl
        rw [hempty, hcase]
        cases name.isEmpty <;> cases name.toList.all isNamespaceChar <;>
          cases Ascii.sameIgnoringCase keyword "page" <;> rfl
  · rw [if_neg hfirst]
    fun_cases ofPath? path with
    | case1 rest hpath =>
      refine absurd (head?_encode_slash_iff.mpr ⟨String.ofList rest, ?_⟩) hfirst
      rw [← String.toList_inj, hpath]
      simp
    | case2 => rfl

/-- A page is read from a path exactly if the path is written as that of the page, which it is in
one way only. Every name has one form without `.tpl`, and of two such ends it keeps the first. Read
in slices of its bytes, the path gives the same, and no slice begins or ends inside a character. -/
theorem path_names_one_page (path : String) :
    (∀ page : PageRef, ofPath? path = some page ↔
      ∃ keyword name, Written path page.namespaceName keyword name ∧ Shortened name page.page) ∧
    (∀ namespaceName keyword name namespaceName' keyword' name',
      Written path namespaceName keyword name → Written path namespaceName' keyword' name' →
      namespaceName = namespaceName' ∧ keyword = keyword' ∧ name = name') ∧
    (∀ name, ∃! page, Shortened name page) ∧
    (∀ page suffix suffix', IsTemplateSuffix suffix → IsTemplateSuffix suffix' →
      Shortened (page ++ suffix ++ suffix') (page ++ suffix)) ∧
    ofSlices? path = .ok (ofPath? path) := by
  refine ⟨fun page => ofPath?_eq_some_iff, ?_, ?_, ?_, ofSlices?_eq path⟩
  · intro namespaceName keyword name namespaceName' keyword' name' h h'
    exact h.unique h'
  · intro name
    exact ⟨_, shortened_iff.mpr rfl, fun page hpage => shortened_iff.mp hpage⟩
  · intro page suffix suffix' _ hs'
    exact Or.inl ⟨suffix', hs', rfl⟩

/-- Four bytes before the end of this name lies the middle of a character. -/
example : ofSlices? "/shop/PAGE/élan" = .ok (some ⟨"shop", "élan"⟩) := by decide +kernel

end PageRef

end PagePreview
