import Mathlib.Data.List.TakeDrop
import PagePreview.Text.Blank

/-!
# Words and lines

What cutting a text into words or lines comes to when texts are put together. Words do not change
when white space is added at their sides, and a text is three words exactly if it is written as
three words, with white space between them and perhaps around them.
-/

namespace PagePreview.Text

variable {α : Type} {p : α → Bool}

/-! ## Cutting -/

/-- Cutting a list is the library's splitting. -/
theorem splitWhere_eq_splitOnP (xs : List α) : splitWhere p xs = xs.splitOnP p := by
  induction xs with
  | nil => simp [splitWhere]
  | cons x rest ih =>
    rw [List.splitOnP_cons_eq_if_modifyHead, splitWhere, ih]
    cases hs : rest.splitOnP p with
    | nil => exact absurd hs (List.splitOnP_ne_nil p rest)
    | cons piece pieces => rfl

/-- A separator between two lists is a cut between their pieces. -/
theorem splitWhere_append_cons {sep : α} (hs : p sep = true) (xs ys : List α) :
    splitWhere p (xs ++ sep :: ys) = splitWhere p xs ++ splitWhere p ys := by
  rw [splitWhere_eq_splitOnP, splitWhere_eq_splitOnP, splitWhere_eq_splitOnP,
    List.splitOnP_append_cons xs ys hs]

/-- A list without a mark is one piece. -/
theorem splitWhere_eq_singleton {xs : List α} (h : ∀ x ∈ xs, p x = false) :
    splitWhere p xs = [xs] := by
  rw [splitWhere_eq_splitOnP, List.splitOnP_eq_singleton h]

/-- No piece holds a separator. -/
theorem not_sep_of_mem_splitWhere {xs piece : List α} (hp : piece ∈ splitWhere p xs) {x : α}
    (hx : x ∈ piece) : p x = false := by
  induction xs generalizing piece with
  | nil =>
    rw [splitWhere, List.mem_singleton] at hp
    rw [hp] at hx
    exact absurd hx List.not_mem_nil
  | cons y rest ih =>
    by_cases hy : p y = true
    · rw [splitWhere, if_pos hy] at hp
      rcases List.mem_cons.mp hp with he | hm
      · rw [he] at hx
        exact absurd hx List.not_mem_nil
      · exact ih hm hx
    · rw [splitWhere, if_neg hy] at hp
      cases hs : splitWhere p rest with
      | nil =>
        rw [hs] at hp
        rw [List.mem_singleton.mp hp, List.mem_singleton] at hx
        rw [hx]
        simpa using hy
      | cons head tail =>
        rw [hs] at hp ih
        rcases List.mem_cons.mp hp with he | hm
        · rw [he] at hx
          rcases List.mem_cons.mp hx with he | hm
          · rw [he]
            simpa using hy
          · exact ih List.mem_cons_self hm
        · exact ih (List.mem_cons_of_mem head hm) hx

/-- Cutting is done alike before and after a translation. -/
theorem splitWhere_map {β : Type} (f : α → β) (p : β → Bool) (xs : List α) :
    splitWhere p (xs.map f) = (splitWhere (fun x => p (f x)) xs).map (List.map f) := by
  induction xs with
  | nil => rfl
  | cons x rest ih =>
    rw [List.map_cons, splitWhere, splitWhere, ih]
    by_cases hx : p (f x) = true
    · rw [if_pos hx, if_pos hx]
      rfl
    · rw [if_neg hx, if_neg hx]
      cases splitWhere (fun x => p (f x)) rest <;> rfl

/-- What stands in a piece stands in the list. -/
theorem mem_of_mem_splitWhere {xs piece : List α} (hp : piece ∈ splitWhere p xs) {x : α}
    (hx : x ∈ piece) : x ∈ xs := by
  induction xs generalizing piece with
  | nil =>
    rw [splitWhere, List.mem_singleton] at hp
    rwa [hp] at hx
  | cons y rest ih =>
    rw [splitWhere] at hp
    split at hp
    · rcases List.mem_cons.mp hp with rfl | hp
      · cases hx
      · exact List.mem_cons_of_mem y (ih hp hx)
    · cases hs : splitWhere p rest with
      | nil =>
        rw [hs] at hp
        rw [List.mem_singleton.mp hp, List.mem_singleton] at hx
        rw [hx]
        exact List.mem_cons_self
      | cons head tail =>
        rw [hs] at hp ih
        rcases List.mem_cons.mp hp with rfl | hp
        · rcases List.mem_cons.mp hx with rfl | hx
          · exact List.mem_cons_self
          · exact List.mem_cons_of_mem y (ih List.mem_cons_self hx)
        · exact List.mem_cons_of_mem y (ih (List.mem_cons_of_mem head hp) hx)

/-- What is no separator is added to the last piece. -/
theorem splitWhere_concat {x : α} (hx : p x = false) (xs : List α) :
    ∃ pieces final, splitWhere p xs = pieces ++ [final] ∧
      splitWhere p (xs ++ [x]) = pieces ++ [final ++ [x]] := by
  induction xs with
  | nil => exact ⟨[], [], rfl, by simp [splitWhere, hx]⟩
  | cons y rest ih =>
    obtain ⟨pieces, final, hrest, hmore⟩ := ih
    rw [List.cons_append, splitWhere, splitWhere, hrest, hmore]
    by_cases hy : p y = true
    · rw [if_pos hy, if_pos hy]
      exact ⟨[] :: pieces, final, rfl, rfl⟩
    · rw [if_neg hy, if_neg hy]
      cases pieces with
      | nil => exact ⟨[], y :: final, rfl, rfl⟩
      | cons piece others => exact ⟨(y :: piece) :: others, final, rfl, rfl⟩

/-! ## Words -/

/-- A text of white space only; it may be empty. -/
def AllBlank (s : String) : Prop := ∀ c ∈ s.toList, isBlank c = true

instance (s : String) : Decidable (AllBlank s) :=
  List.decidableBAll (fun c => isBlank c = true) s.toList

/-- A word: it is not empty, and has no white space. -/
structure IsWord (w : String) : Prop where
  /-- It is not empty. -/
  ne_empty : w ≠ ""
  /-- None of its characters is white space. -/
  not_blank : ∀ c ∈ w.toList, isBlank c = false

instance (w : String) : Decidable (IsWord w) :=
  haveI := List.decidableBAll (fun c => isBlank c = false) w.toList
  decidable_of_iff (w ≠ "" ∧ ∀ c ∈ w.toList, isBlank c = false)
    ⟨fun h => ⟨h.1, h.2⟩, fun h => ⟨h.ne_empty, h.not_blank⟩⟩

/-- A text whose first character, if it has one, is white space. -/
def StartsBlank (s : String) : Prop := ∀ c, s.toList.head? = some c → isBlank c = true

/-- A blank ends a word, and the words behind it are those of the rest. -/
theorem words_append_cons {c : Char} (hc : isBlank c = true) (a b : String) :
    words (a ++ String.ofList (c :: b.toList)) = words a ++ words b := by
  unfold words
  rw [String.toList_append, String.toList_ofList, splitWhere_append_cons hc, List.filter_append,
    List.map_append]

/-- A word is read as it is. -/
theorem words_of_isWord {w : String} (h : IsWord w) : words w = [w] := by
  have hne : w.toList.isEmpty = false := by
    rw [List.isEmpty_eq_false_iff]
    exact mt String.toList_eq_nil_iff.mp h.ne_empty
  unfold words
  rw [splitWhere_eq_singleton h.not_blank]
  simp [hne]

/-- White space in front changes nothing. -/
theorem words_blank_append {s : String} (h : AllBlank s) (text : String) :
    words (s ++ text) = words text := by
  have hchars : ∀ cs : List Char, (∀ c ∈ cs, isBlank c = true) →
      words (String.ofList cs ++ text) = words text := by
    intro cs hcs
    induction cs with
    | nil => rw [String.ofList_nil, String.empty_append]
    | cons c rest ih =>
      have hc := hcs c List.mem_cons_self
      have hstep := words_append_cons hc "" (String.ofList rest ++ text)
      have htext : "" ++ String.ofList (c :: (String.ofList rest ++ text).toList) =
          String.ofList (c :: rest) ++ text := by
        rw [← String.toList_inj]
        simp
      rw [← htext, hstep, ih fun d hd => hcs d (List.mem_cons_of_mem c hd)]
      rfl
  rw [← hchars s.toList h, String.ofList_toList]

/-- Blanks have no words. -/
theorem words_of_allBlank {s : String} (h : AllBlank s) : words s = [] := by
  have hw := words_blank_append h ""
  rw [String.append_empty] at hw
  exact hw

/-- Between two texts, white space separates words. -/
theorem words_append_of_startsBlank (a : String) {b : String} (h : StartsBlank b) :
    words (a ++ b) = words a ++ words b := by
  cases hb : b.toList with
  | nil =>
    rw [String.toList_eq_nil_iff] at hb
    subst hb
    rw [String.append_empty]
    exact (List.append_nil _).symm
  | cons c rest =>
    have hc : isBlank c = true := h c (by rw [hb]; rfl)
    have htext : String.ofList (c :: (String.ofList rest).toList) = b := by
      rw [← String.toList_inj]
      simp [hb]
    have hback := words_append_cons hc "" (String.ofList rest)
    rw [htext, String.empty_append] at hback
    have hwhole := words_append_cons hc a (String.ofList rest)
    rw [htext] at hwhole
    rw [hwhole, hback]
    rfl

/-- White space at the end changes nothing. -/
theorem words_append_blank (text : String) {s : String} (h : AllBlank s) :
    words (text ++ s) = words text := by
  have hstart : StartsBlank s := fun c hc => h c (List.mem_of_mem_head? hc)
  rw [words_append_of_startsBlank text hstart, words_of_allBlank h, List.append_nil]

/-- What is left after dropping begins with something that fails the test. -/
theorem eq_false_of_mem_head?_dropWhile {xs : List α} {x : α}
    (h : x ∈ (xs.dropWhile p).head?) : p x = false := by
  have hnot := List.head?_dropWhile_not p xs
  rw [Option.mem_def.mp h] at hnot
  exact hnot

/-- A list begins with elements that pass a test, up to one that does not. -/
theorem exists_span (p : α → Bool) (xs : List α) :
    ∃ front rest, xs = front ++ rest ∧ (∀ x ∈ front, p x = true) ∧
      ∀ x, rest.head? = some x → p x = false := by
  refine ⟨xs.takeWhile p, xs.dropWhile p, List.takeWhile_append_dropWhile.symm, ?_, ?_⟩
  · exact List.all_eq_true.mp List.all_takeWhile
  · exact fun x => eq_false_of_mem_head?_dropWhile

/-- An element that is not in a list differs from all that are. -/
theorem bne_of_notMem [BEq α] [LawfulBEq α] {x : α} {xs : List α} (h : x ∉ xs) :
    ∀ y ∈ xs, (y != x) = true := by
  intro y hy
  rw [bne_iff_ne]
  rintro rfl
  exact h hy

/-- A list is cut where a test first fails. -/
theorem takeWhile_dropWhile_append {xs ys : List α} (hxs : ∀ x ∈ xs, p x = true)
    (hys : ∀ y ∈ ys.head?, p y = false) :
    (xs ++ ys).takeWhile p = xs ∧ (xs ++ ys).dropWhile p = ys := by
  rw [List.takeWhile_append_of_pos hxs, List.dropWhile_append_of_pos hxs]
  cases ys with
  | nil => simp
  | cons y ys => simp [hys y rfl]

/-- A list is cut at the first place of an element. -/
theorem takeWhile_dropWhile_bne [BEq α] [LawfulBEq α] {x : α} {front : List α} (h : x ∉ front)
    (rest : List α) : (front ++ x :: rest).takeWhile (· != x) = front ∧
      (front ++ x :: rest).dropWhile (· != x) = x :: rest :=
  takeWhile_dropWhile_append (bne_of_notMem h) (by simp)

/-- A list is not cut where an element is missing. -/
theorem takeWhile_dropWhile_of_notMem [BEq α] [LawfulBEq α] {x : α} {xs : List α} (h : x ∉ xs) :
    xs.takeWhile (· != x) = xs ∧ xs.dropWhile (· != x) = [] := by
  have hnil : ∀ y ∈ ([] : List α).head?, (y != x) = false := nofun
  have hcut := takeWhile_dropWhile_append (bne_of_notMem h) hnil
  rwa [List.append_nil] at hcut

/-- A list is cut where its first part ends. -/
theorem span_append {xs ys : List α} (hxs : ∀ x ∈ xs, p x = true)
    (hys : ∀ y ∈ ys.head?, p y = false) : (xs ++ ys).span p = (xs, ys) := by
  obtain ⟨htake, hdrop⟩ := takeWhile_dropWhile_append hxs hys
  rw [List.span_eq_takeWhile_dropWhile, htake, hdrop]

/-- A text is white space, or it has a first word. -/
theorem allBlank_or_exists_word (text : String) :
    AllBlank text ∨ ∃ before w rest, text = before ++ w ++ rest ∧ AllBlank before ∧ IsWord w ∧
      StartsBlank rest := by
  obtain ⟨before, others, htext, hbefore, hothers⟩ := exists_span isBlank text.toList
  obtain ⟨w, rest, hw, hword, hrest⟩ := exists_span (fun c => !isBlank c) others
  cases w with
  | nil =>
    left
    have hend : others = [] := by
      rw [List.nil_append] at hw
      cases rest with
      | nil => exact hw
      | cons c cs =>
        have hyes := hrest c rfl
        have hno := hothers c (by rw [hw]; rfl)
        rw [hno] at hyes
        exact absurd hyes (by simp)
    rw [hend, List.append_nil] at htext
    intro c hc
    rw [htext] at hc
    exact hbefore c hc
  | cons c cs =>
    right
    refine ⟨String.ofList before, String.ofList (c :: cs), String.ofList rest, ?_, ?_, ⟨?_, ?_⟩, ?_⟩
    · rw [← String.toList_inj, htext, hw]
      simp
    · intro d hd
      rw [String.toList_ofList] at hd
      exact hbefore d hd
    · intro he
      have hcs := String.toList_eq_nil_iff.mpr he
      rw [String.toList_ofList] at hcs
      cases hcs
    · intro d hd
      rw [String.toList_ofList] at hd
      simpa using hword d hd
    · intro d hd
      rw [String.toList_ofList] at hd
      simpa using hrest d hd

/-- The first word of a text is read first. -/
theorem words_eq_cons {before w rest : String} (hb : AllBlank before) (hw : IsWord w)
    (hr : StartsBlank rest) : words (before ++ w ++ rest) = w :: words rest := by
  rw [words_append_of_startsBlank _ hr, words_blank_append hb, words_of_isWord hw]
  rfl

/-- Only white space has no words. -/
theorem words_eq_nil_iff {text : String} : words text = [] ↔ AllBlank text := by
  constructor
  · intro h
    rcases allBlank_or_exists_word text with hblank | ⟨before, w, rest, rfl, hb, hw, hr⟩
    · exact hblank
    · rw [words_eq_cons hb hw hr] at h
      cases h
  · exact words_of_allBlank

/-- A word is first if only white space stands in front of it, and it ends there. -/
theorem words_eq_cons_iff {text w : String} {ws : List String} :
    words text = w :: ws ↔ ∃ before rest, text = before ++ w ++ rest ∧ AllBlank before ∧
      IsWord w ∧ StartsBlank rest ∧ words rest = ws := by
  constructor
  · intro h
    rcases allBlank_or_exists_word text with hblank | ⟨before, v, rest, rfl, hb, hv, hr⟩
    · rw [words_of_allBlank hblank] at h
      cases h
    · rw [words_eq_cons hb hv hr] at h
      obtain ⟨rfl, rfl⟩ := List.cons.inj h
      exact ⟨before, rest, rfl, hb, hv, hr, rfl⟩
  · rintro ⟨before, rest, rfl, hb, hw, hr, rfl⟩
    exact words_eq_cons hb hw hr

/-- White space that separates two words. -/
structure IsGap (s : String) : Prop where
  /-- It is not empty. -/
  ne_empty : s ≠ ""
  /-- It is white space. -/
  blank : AllBlank s

/-- What begins with a gap begins with a blank. -/
theorem IsGap.startsBlank {gap : String} (h : IsGap gap) (rest : String) :
    StartsBlank (gap ++ rest) := by
  obtain ⟨d, ds, hds⟩ := List.exists_cons_of_ne_nil (mt String.toList_eq_nil_iff.mp h.ne_empty)
  intro c hc
  rw [String.toList_append, hds] at hc
  apply h.blank
  rw [hds, ← Option.some.inj hc]
  exact List.mem_cons_self

/-- What separates two words is not empty. -/
theorem isGap_of_startsBlank {before w rest : String} (hb : AllBlank before) (hw : IsWord w)
    (h : StartsBlank (before ++ w ++ rest)) : IsGap before := by
  refine ⟨?_, hb⟩
  rintro rfl
  obtain ⟨d, ds, hds⟩ := List.exists_cons_of_ne_nil (mt String.toList_eq_nil_iff.mp hw.ne_empty)
  have hyes : isBlank d = true := h d (by simp [hds])
  have hno : isBlank d = false := hw.not_blank d (by rw [hds]; exact List.mem_cons_self)
  rw [hno] at hyes
  cases hyes

/-- A line that is written as three words, with white space between them and perhaps around
them. -/
def ThreeWords (line first second third : String) : Prop :=
  IsWord first ∧ IsWord second ∧ IsWord third ∧ ∃ before gap gap' after, AllBlank before ∧
    IsGap gap ∧ IsGap gap' ∧ AllBlank after ∧
    line = before ++ first ++ gap ++ second ++ gap' ++ third ++ after

/-- A line is read as three words exactly if it is written as them. -/
theorem words_eq_three_iff {line first second third : String} :
    words line = [first, second, third] ↔ ThreeWords line first second third := by
  constructor
  · intro h
    obtain ⟨before, rest, rfl, hb, hfirst, hrest, h⟩ := words_eq_cons_iff.mp h
    obtain ⟨gap, rest, rfl, hgap, hsecond, hrest', h⟩ := words_eq_cons_iff.mp h
    obtain ⟨gap', after, rfl, hgap', hthird, -, h⟩ := words_eq_cons_iff.mp h
    refine ⟨hfirst, hsecond, hthird, before, gap, gap', after, hb, ?_, ?_, ?_, ?_⟩
    · exact isGap_of_startsBlank hgap hsecond hrest
    · exact isGap_of_startsBlank hgap' hthird hrest'
    · exact words_eq_nil_iff.mp h
    · simp only [String.append_assoc]
  · rintro ⟨hfirst, hsecond, hthird, before, gap, gap', after, hb, hgap, hgap', ha, rfl⟩
    have hafter : StartsBlank after := fun c hc => ha c (List.mem_of_mem_head? hc)
    have htwo := words_eq_cons hgap.blank hsecond (hgap'.startsBlank (third ++ after))
    have hthree := words_eq_cons hgap'.blank hthird hafter
    have hone := words_eq_cons hb hfirst (hgap.startsBlank (second ++ (gap' ++ (third ++ after))))
    simp only [String.append_assoc] at hone htwo hthree ⊢
    rw [hone, htwo, hthree, words_of_allBlank ha]

/-! ## Lines -/

/-- At most one carriage return is dropped from the end of a line. -/
theorem dropReturn_cases (cs : List Char) :
    dropReturn cs = cs ∨ cs = dropReturn cs ++ ['\r'] := by
  fun_induction dropReturn cs with
  | case1 => exact Or.inl rfl
  | case2 => exact Or.inr rfl
  | case3 c rest hne ih =>
    rcases ih with hsame | hlast
    · exact Or.inl (by rw [hsame])
    · exact Or.inr (by rw [List.cons_append, ← hlast])

/-- Whoever finds nothing in an empty line and does not mind a carriage return at the end may as
well look at the pieces between the newlines. -/
theorem filterMap_lines {β : Type} {f : String → Option β} (hempty : f "" = none)
    (hreturn : ∀ s, f (s ++ "\r") = f s) (text : String) :
    (lines text).filterMap f =
      ((splitWhere (· == '\n') text.toList).map String.ofList).filterMap f := by
  have hdrop : ∀ cs, f (String.ofList (dropReturn cs)) = f (String.ofList cs) := by
    intro cs
    rcases dropReturn_cases cs with hsame | hlast
    · rw [hsame]
    · have htext : String.ofList (dropReturn cs) ++ "\r" = String.ofList cs := by
        rw [← String.toList_inj]
        simp [← hlast]
      rw [← hreturn, htext]
  unfold lines
  generalize splitWhere (· == '\n') text.toList = pieces
  fun_induction linesOf pieces with
  | case1 => rfl
  | case2 final hfinal =>
    rw [List.isEmpty_iff.mp hfinal]
    simp [hempty]
  | case3 final hfinal => rfl
  | case4 line rest hne ih =>
    rw [List.map_cons, List.filterMap_cons, hdrop, ih, List.map_cons, List.filterMap_cons]

end PagePreview.Text
