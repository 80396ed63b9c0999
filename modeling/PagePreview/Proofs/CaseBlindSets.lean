import PagePreview.Pattern.Meaning
import PagePreview.Proofs.LetterCase

/-!
# Sets that do not tell the cases of a letter apart

A set of characters is blind to case if it holds an ASCII letter in both cases or in neither. A set
that is closed under case is blind, whatever it was before, and what lies outside a blind set is
blind. So every set of a pattern is blind while the pattern ignores case.
-/

namespace PagePreview.Pattern

open Unicode (Intervals)

namespace CharSet

variable {s t : CharSet} {n : Nat}

/-! ## Points of a set -/

/-- A point is in a set if it is in one of the intervals. -/
theorem contains_iff :
    Intervals.contains s n = true ↔ ∃ r ∈ s, r.1 ≤ n ∧ n ≤ r.2 := by
  simp [Intervals.contains]

/-- A point is in the first interval or in the others. -/
theorem contains_cons_iff {a b : Nat} :
    Intervals.contains ((a, b) :: s) n = true ↔
      a ≤ n ∧ n ≤ b ∨ Intervals.contains s n = true := by
  simp [Intervals.contains]

/-- A point is in the one list of intervals or in the other. -/
theorem contains_append_iff :
    Intervals.contains (s ++ t) n = true ↔
      Intervals.contains s n = true ∨ Intervals.contains t n = true := by
  simp [Intervals.contains]

/-- The intervals come in ascending order of their lower ends. -/
def Ascending (s : CharSet) : Prop := s.Pairwise fun q r => q.1 ≤ r.1

instance : DecidablePred Ascending := fun s => inferInstanceAs (Decidable (s.Pairwise _))

/-- Joined intervals have lower ends that were there before. -/
theorem lower_mem_join {r : Nat × Nat} (hr : r ∈ join s) : ∃ q ∈ s, q.1 = r.1 := by
  induction s using join.induct with
  | case1 => simp [join] at hr
  | case2 q => exact ⟨r, by simpa [join] using hr, rfl⟩
  | case3 a b c d rest htouch ih =>
    rw [join, if_pos htouch] at hr
    obtain ⟨q, hq, heq⟩ := ih hr
    rcases List.mem_cons.mp hq with rfl | hq
    · exact ⟨(a, b), List.mem_cons_self, heq⟩
    · exact ⟨q, List.mem_cons_of_mem _ (List.mem_cons_of_mem _ hq), heq⟩
  | case4 a b c d rest hapart ih =>
    rw [join, if_neg hapart] at hr
    rcases List.mem_cons.mp hr with rfl | hr
    · exact ⟨(a, b), List.mem_cons_self, rfl⟩
    · obtain ⟨q, hq, heq⟩ := ih hr
      exact ⟨q, List.mem_cons_of_mem _ hq, heq⟩

/-- The order stays when the second interval is taken into the first. -/
theorem Ascending.skip_second {q r : Nat × Nat} {b : Nat} (h : Ascending (q :: r :: s)) :
    Ascending ((q.1, b) :: s) := by
  obtain ⟨hfirst, hrest⟩ := List.pairwise_cons.mp h
  exact List.pairwise_cons.mpr
    ⟨fun p hp => hfirst p (List.mem_cons_of_mem _ hp), (List.pairwise_cons.mp hrest).2⟩

/-- Joined intervals are in ascending order. -/
theorem ascending_join (h : s.Ascending) : (join s).Ascending := by
  induction s using join.induct with
  | case1 => rwa [join]
  | case2 q => rwa [join]
  | case3 a b c d rest htouch ih =>
    rw [join, if_pos htouch]
    exact ih h.skip_second
  | case4 a b c d rest hapart ih =>
    rw [join, if_neg hapart]
    obtain ⟨hfirst, hrest⟩ := List.pairwise_cons.mp h
    refine List.pairwise_cons.mpr ⟨fun r hr => ?_, ih hrest⟩
    obtain ⟨q, hq, heq⟩ := lower_mem_join hr
    exact heq ▸ hfirst q hq

/-- Joining intervals that touch changes no point. -/
theorem contains_join_iff (h : s.Ascending) :
    Intervals.contains (join s) n = true ↔ Intervals.contains s n = true := by
  induction s using join.induct with
  | case1 => rw [join]
  | case2 q => rw [join]
  | case3 a b c d rest htouch ih =>
    have hle : a ≤ c := (List.pairwise_cons.mp h).1 (c, d) List.mem_cons_self
    rw [join, if_pos htouch, ih h.skip_second]
    simp only [contains_cons_iff]
    rw [← or_assoc]
    exact or_congr_left (by omega)
  | case4 a b c d rest hapart ih =>
    rw [join, if_neg hapart, contains_cons_iff, contains_cons_iff,
      ih (List.pairwise_cons.mp h).2]

/-- Sorted intervals are in ascending order. -/
theorem ascending_mergeSort (s : CharSet) : Ascending (s.mergeSort fun a b => a.1 ≤ b.1) := by
  have h : (s.mergeSort fun a b => a.1 ≤ b.1).Pairwise fun a b => decide (a.1 ≤ b.1) = true := by
    refine List.pairwise_mergeSort (fun a b c hab hbc => ?_) (fun a b => ?_) s
    · simp only [decide_eq_true_eq] at *
      omega
    · simp only [Bool.or_eq_true, decide_eq_true_eq]
      omega
  exact h.imp of_decide_eq_true

/-- A set of intervals given in any order is in ascending order. -/
theorem ascending_ofIntervals (s : CharSet) : (ofIntervals s).Ascending :=
  ascending_join (ascending_mergeSort s)

/-- A set of intervals has their points. -/
theorem contains_ofIntervals_iff :
    Intervals.contains (ofIntervals s) n = true ↔ Intervals.contains s n = true := by
  unfold ofIntervals
  rw [contains_join_iff (ascending_mergeSort s), contains_iff, contains_iff]
  simp only [List.mem_mergeSort]

/-- The gaps have the points, from the lower end on, that the set does not have. -/
theorem contains_gaps_iff (h : s.Ascending) (hn : n ≤ maxPoint) (low : Nat) :
    Intervals.contains (gaps low s) n = true ↔ low ≤ n ∧ ¬Intervals.contains s n = true := by
  induction s generalizing low with
  | nil =>
    unfold gaps
    split
    · simp [Intervals.contains, hn]
    · simp [Intervals.contains]
      omega
  | cons r rest ih =>
    obtain ⟨a, b⟩ := r
    obtain ⟨hfirst, hrest⟩ := List.pairwise_cons.mp h
    have hlow : Intervals.contains rest n = true → a ≤ n := by
      intro hmem
      obtain ⟨q, hq, hle, -⟩ := contains_iff.mp hmem
      exact Nat.le_trans (hfirst q hq) hle
    unfold gaps
    by_cases hmem : Intervals.contains rest n = true
    · have ha := hlow hmem
      split
      · simp only [contains_cons_iff, ih hrest, hmem, or_true, not_true, and_false, or_false,
          iff_false]
        omega
      · simp only [contains_cons_iff, ih hrest, hmem, or_true, not_true, and_false]
    · rw [Bool.not_eq_true] at hmem
      split
      · simp only [contains_cons_iff, ih hrest, hmem, Bool.false_eq_true, or_false, not_false_iff,
          and_true]
        omega
      · simp only [contains_cons_iff, ih hrest, hmem, Bool.false_eq_true, or_false, not_false_iff,
          and_true]
        omega

/-- The complement has the points that the set does not have. -/
theorem contains_complement_iff (h : s.Ascending) (hn : n ≤ maxPoint) :
    Intervals.contains s.complement n = true ↔ ¬Intervals.contains s n = true := by
  unfold complement
  rw [contains_gaps_iff h hn]
  exact and_iff_right (Nat.zero_le n)

/-! ## Both cases of a letter -/

/-- Of the characters that differ only in the case of an ASCII letter, the set has all or none. -/
def CaseBlind (s : CharSet) : Prop :=
  ∀ c d : Char, Ascii.lower c = Ascii.lower d → s.has c = s.has d

/-- A character that is not in lower case is one of the capitals, and these stand in the same order
as the small letters. -/
theorem lower_cases (c : Char) :
    Ascii.lower c = c ∨
      ∃ i < 26, c.toNat = 0x41 + i ∧ (Ascii.lower c).toNat = 0x61 + i := by
  by_cases hc : c.toNat < 0x80
  · exact Ascii.forall_lt (P := fun c => Ascii.lower c = c ∨
      ∃ i < 26, c.toNat = 0x41 + i ∧ (Ascii.lower c).toNat = 0x61 + i) (by decide) hc
  · exact .inl (Ascii.lower_of_high hc)

/-- Blindness to case is decided on the 26 letters. -/
theorem caseBlind_iff :
    s.CaseBlind ↔ ∀ i < 26,
      (Intervals.contains s (0x41 + i) = true ↔ Intervals.contains s (0x61 + i) = true) := by
  constructor
  · intro h i hi
    have hsame : ∀ i < 26,
        Ascii.lower (Char.ofNat (0x41 + i)) = Ascii.lower (Char.ofNat (0x61 + i)) ∧
        (Char.ofNat (0x41 + i)).toNat = 0x41 + i ∧ (Char.ofNat (0x61 + i)).toNat = 0x61 + i := by
      decide
    obtain ⟨hlower, hcapital, hsmall⟩ := hsame i hi
    have hhas := h _ _ hlower
    unfold has at hhas
    rw [hcapital, hsmall] at hhas
    rw [hhas]
  · intro h
    have hlower : ∀ c, s.has (Ascii.lower c) = s.has c := by
      intro c
      rcases lower_cases c with hc | ⟨i, hi, hc, hl⟩
      · rw [hc]
      · unfold has
        rw [hc, hl, Bool.eq_iff_iff]
        exact (h i hi).symm
    intro c d hcd
    rw [← hlower c, hcd, hlower d]

instance : DecidablePred CaseBlind := fun _ => decidable_of_iff _ caseBlind_iff.symm

/-- Intervals in any order are blind to case if the set of them is. -/
theorem caseBlind_ofIntervals_iff : (ofIntervals s).CaseBlind ↔ s.CaseBlind := by
  simp only [caseBlind_iff, contains_ofIntervals_iff]

/-- What lies outside a blind set is blind. -/
theorem CaseBlind.complement (h : s.CaseBlind) (hs : s.Ascending) : s.complement.CaseBlind := by
  rw [caseBlind_iff] at h ⊢
  intro i hi
  have hmax : 0x61 + i ≤ maxPoint := by
    unfold maxPoint
    omega
  rw [contains_complement_iff hs hmax, contains_complement_iff hs (by omega), h i hi]

/-! ## Closing under case -/

/-- Of an ASCII letter, a class of cases has both cases or neither. -/
theorem mem_caseClasses {cls : List Nat} (h : cls ∈ Unicode.caseClasses) {i : Nat} (hi : i < 26) :
    0x41 + i ∈ cls ↔ 0x61 + i ∈ cls := by
  rcases List.mem_append.mp h with h | h
  · obtain ⟨j, hj, rfl⟩ := List.mem_map.mp h
    have hclass : ∀ j < 26, ∀ i < 26,
        (0x41 + i ∈ [0x41 + j, 0x61 + j] ++ Unicode.asciiExtras (0x61 + j) ↔
          0x61 + i ∈ [0x41 + j, 0x61 + j] ++ Unicode.asciiExtras (0x61 + j)) := by
      decide +kernel
    exact hclass j (List.mem_range.mp hj) i hi
  · -- The other classes have no ASCII character.
    have hwide : ∀ n ∈ cls, 0x80 ≤ n := by
      simpa using (List.mem_filter.mp h).2
    have hnone : ∀ n < 0x80, n ∉ cls := fun n hn hmem => absurd (hwide n hmem) (by omega)
    exact iff_of_false (hnone _ (by omega)) (hnone _ (by omega))

/-- Closing under case adds the points that share a class with one of the set. -/
theorem contains_closeUnderCase_iff :
    Intervals.contains (Unicode.closeUnderCase s) n = true ↔
      Intervals.contains s n = true ∨
        ∃ cls ∈ Unicode.caseClasses, (∃ m ∈ cls, Intervals.contains s m = true) ∧ n ∈ cls := by
  unfold Unicode.closeUnderCase
  rw [contains_append_iff]
  refine or_congr_right ?_
  rw [contains_iff]
  constructor
  · rintro ⟨r, hr, hle, hge⟩
    obtain ⟨cls, hcls, hr⟩ := List.mem_flatMap.mp hr
    obtain ⟨m, hm, rfl⟩ := List.mem_map.mp hr
    obtain ⟨hclass, hmeets⟩ := List.mem_filter.mp hcls
    obtain rfl : m = n := Nat.le_antisymm hle hge
    exact ⟨cls, hclass, List.any_eq_true.mp hmeets, hm⟩
  · rintro ⟨cls, hclass, hmeets, hn⟩
    refine ⟨(n, n), List.mem_flatMap.mpr ⟨cls, ?_, List.mem_map_of_mem hn⟩, Nat.le_refl n,
      Nat.le_refl n⟩
    exact List.mem_filter.mpr ⟨hclass, List.any_eq_true.mpr hmeets⟩

/-- A set that is closed under case is blind to it. -/
theorem caseBlind_foldCase (s : CharSet) : s.foldCase.CaseBlind := by
  unfold foldCase
  rw [caseBlind_ofIntervals_iff, caseBlind_iff]
  intro i hi
  -- A letter of the set is in its class, which then is added with the letter's other case.
  obtain ⟨cls, hclass, hcapital⟩ : ∃ cls ∈ Unicode.caseClasses, 0x41 + i ∈ cls :=
    ⟨_, List.mem_append_left _ (List.mem_map_of_mem (List.mem_range.mpr hi)), List.mem_cons_self⟩
  have hsmall := (mem_caseClasses hclass hi).mp hcapital
  rw [contains_closeUnderCase_iff, contains_closeUnderCase_iff]
  constructor
  · rintro (hmem | ⟨cls, hclass, hmeets, hn⟩)
    · exact .inr ⟨cls, hclass, ⟨_, hcapital, hmem⟩, hsmall⟩
    · exact .inr ⟨cls, hclass, hmeets, (mem_caseClasses hclass hi).mp hn⟩
  · rintro (hmem | ⟨cls, hclass, hmeets, hn⟩)
    · exact .inr ⟨cls, hclass, ⟨_, hsmall, hmem⟩, hcapital⟩
    · exact .inr ⟨cls, hclass, hmeets, (mem_caseClasses hclass hi).mpr hn⟩

/-- Closing under the case of ASCII adds the other case of each letter. -/
theorem contains_foldAsciiCase_iff :
    Intervals.contains s.foldAsciiCase n = true ↔
      Intervals.contains s n = true ∨ ∃ i < 26,
        Intervals.contains s (0x41 + i) = true ∧ n = 0x61 + i ∨
        Intervals.contains s (0x61 + i) = true ∧ n = 0x41 + i := by
  have hpoint : ∀ (p : Bool) (m : Nat),
      Intervals.contains (if p then [(m, m)] else []) n = true ↔ p = true ∧ n = m := by
    intro p m
    cases p with
    | false => simp [Intervals.contains]
    | true =>
      simp only [Intervals.contains, if_true, List.any_cons, List.any_nil, Bool.or_false,
        Bool.and_eq_true, decide_eq_true_eq, true_and]
      omega
  have hsome : ∀ f : Nat → CharSet, Intervals.contains ((List.range 26).flatMap f) n = true ↔
      ∃ i < 26, Intervals.contains (f i) n = true := by
    intro f
    simp [Intervals.contains]
  unfold foldAsciiCase
  rw [contains_ofIntervals_iff, contains_append_iff, hsome]
  simp only [contains_append_iff, hpoint]

/-- A set that is closed under the case of ASCII is blind to case. -/
theorem caseBlind_foldAsciiCase (s : CharSet) : s.foldAsciiCase.CaseBlind := by
  rw [caseBlind_iff]
  intro i hi
  rw [contains_foldAsciiCase_iff, contains_foldAsciiCase_iff]
  constructor
  · rintro (hmem | ⟨j, hj, ⟨hmem, heq⟩ | ⟨hmem, heq⟩⟩)
    · exact .inr ⟨i, hi, .inl ⟨hmem, rfl⟩⟩
    · omega
    · obtain rfl : i = j := by omega
      exact .inl hmem
  · rintro (hmem | ⟨j, hj, ⟨hmem, heq⟩ | ⟨hmem, heq⟩⟩)
    · exact .inr ⟨i, hi, .inr ⟨hmem, rfl⟩⟩
    · obtain rfl : i = j := by omega
      exact .inl hmem
    · omega

end CharSet

/-! ## Classes of a single letter -/

/-- The intervals of a table whose characters are given one by one. -/
def tableOf (cs : List Char) : Intervals :=
  ((Text.splitWhere (fun c => c == ' ' || c == '\n') cs).filter (!·.isEmpty)).flatMap
    fun entry => Unicode.intervalsOf (Unicode.intervalOf entry)

/-- A named class is read off its table. -/
theorem named?_eq_tableOf {tables : List Unicode.NamedRanges} {name : String}
    {names : List String} {cs : List Char}
    (h : tables.find? (fun t => t.1.contains name) = some (names, String.ofList cs)) :
    Unicode.named? tables name = some (tableOf cs) := by
  unfold Unicode.named? Unicode.readTable Unicode.entries tableOf
  rw [h, Option.map_some, String.toList_ofList]

/-- A named class is blind to case if its table is. -/
theorem caseBlind_of_table {tables : List Unicode.NamedRanges} {name : String}
    (h : ∃ names cs, tables.find? (fun t => t.1.contains name) = some (names, String.ofList cs) ∧
      CharSet.CaseBlind (tableOf cs)) :
    CharSet.CaseBlind ((Unicode.named? tables name).getD []) := by
  obtain ⟨names, cs, hfind, hblind⟩ := h
  rwa [named?_eq_tableOf hfind]

/-- The digits have no letters. -/
theorem caseBlind_decimalDigits : CharSet.CaseBlind Unicode.decimalDigits := by
  unfold Unicode.decimalDigits Unicode.category
  apply caseBlind_of_table
  refine ⟨_, _, by rfl, ?_⟩
  decide +kernel

/-- The white space has no letters. -/
theorem caseBlind_blanks : CharSet.CaseBlind Unicode.blanks := by
  unfold Unicode.blanks Unicode.property
  apply caseBlind_of_table
  refine ⟨_, _, by rfl, ?_⟩
  decide +kernel

/-- All ASCII letters are word characters. -/
theorem caseBlind_wordCharacters : CharSet.CaseBlind Unicode.wordCharacters := by
  obtain ⟨names, cs, hfind, hcapitals, hsmall⟩ : ∃ names cs,
      Unicode.properties.find? (fun t => t.1.contains "alpha") =
        some (names, String.ofList cs) ∧ (0x41, 0x5A) ∈ tableOf cs ∧ (0x61, 0x7A) ∈ tableOf cs := by
    refine ⟨_, _, by rfl, ?_, ?_⟩
    · decide +kernel
    · decide +kernel
  have halphabetic : Unicode.alphabetic = tableOf cs := by
    unfold Unicode.alphabetic Unicode.property
    rw [named?_eq_tableOf hfind, Option.getD_some]
  have hletter : ∀ n, 0x41 ≤ n ∧ n ≤ 0x5A ∨ 0x61 ≤ n ∧ n ≤ 0x7A →
      Intervals.contains Unicode.wordCharacters n = true := by
    intro n hn
    have hword : Intervals.contains Unicode.alphabetic n = true := by
      rw [halphabetic, CharSet.contains_iff]
      rcases hn with hn | hn
      · exact ⟨_, hcapitals, hn⟩
      · exact ⟨_, hsmall, hn⟩
    unfold Unicode.wordCharacters
    simp only [CharSet.contains_append_iff, hword, true_or]
  rw [CharSet.caseBlind_iff]
  intro i hi
  rw [hletter _ (by omega), hletter _ (by omega)]

/-- The classes of a single letter are blind to case, and in ascending order. -/
theorem caseBlind_perl (unicode : Bool) (cls : PerlClass) :
    (cls.set unicode).CaseBlind ∧ (cls.set unicode).Ascending := by
  have hwide : ∀ {s : CharSet}, s.CaseBlind →
      (CharSet.ofIntervals s).CaseBlind ∧ (CharSet.ofIntervals s).Ascending := fun h =>
    ⟨CharSet.caseBlind_ofIntervals_iff.mpr h, CharSet.ascending_ofIntervals _⟩
  cases unicode with
  | false => cases cls <;> decide
  | true =>
    -- The tables are not to be evaluated, so the class is unfolded by rewriting only.
    cases cls with
    | digit =>
      simp only [PerlClass.set, if_true, unicodeDigit]
      exact hwide caseBlind_decimalDigits
    | blank =>
      simp only [PerlClass.set, if_true, unicodeBlank]
      exact hwide caseBlind_blanks
    | word =>
      simp only [PerlClass.set, if_true, unicodeWord]
      exact hwide caseBlind_wordCharacters

/-! ## The sets of a pattern that ignores case -/

namespace Flags

variable {f : Flags} {negated : Bool} {s t : CharSet}

/-- What lies outside a blind set is blind. -/
theorem caseBlind_negate (h : s.CaseBlind ∧ s.Ascending) (negated : Bool) :
    (if negated then s.complement else s).CaseBlind := by
  cases negated with
  | false => exact h.1
  | true => exact h.1.complement h.2

/-- Where case is ignored, every set is closed under case. -/
theorem caseBlind_fold (hf : f.ignoreCase = true) (s : CharSet) :
    (f.fold s).CaseBlind ∧ (f.fold s).Ascending := by
  unfold fold
  rw [if_pos hf]
  split
  · exact ⟨CharSet.caseBlind_foldCase s, CharSet.ascending_ofIntervals _⟩
  · exact ⟨CharSet.caseBlind_foldAsciiCase s, CharSet.ascending_ofIntervals _⟩

/-- Where case is ignored, a class is blind to it, negated or not. -/
theorem caseBlind_of_close? (hf : f.ignoreCase = true) (h : f.close? negated s = some t) :
    t.CaseBlind := by
  unfold close? at h
  obtain ⟨-, heq⟩ := Option.ite_none_right_eq_some.mp h
  cases heq
  exact caseBlind_negate (caseBlind_fold hf s) negated

/-- A class of a single letter is blind to case, negated or not. -/
theorem caseBlind_of_perl? {cls : PerlClass} (h : f.perl? negated cls = some t) :
    t.CaseBlind := by
  unfold perl? at h
  obtain ⟨-, heq⟩ := Option.ite_none_right_eq_some.mp h
  cases heq
  exact caseBlind_negate (caseBlind_perl f.unicode cls) negated

/-- Where case is ignored, a class of a property is blind to it. -/
theorem caseBlind_of_property? (hf : f.ignoreCase = true) {query : PropertyQuery}
    (h : f.property? negated query = some t) : t.CaseBlind := by
  unfold property? at h
  obtain ⟨-, h⟩ := Option.ite_none_right_eq_some.mp h
  obtain ⟨s, -, hclose⟩ := Option.bind_eq_some_iff.mp h
  exact caseBlind_of_close? hf hclose

end Flags

end PagePreview.Pattern
