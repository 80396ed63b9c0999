import PagePreview.Text.Html

/-!
# Text inside a page

An escaped text holds none of the characters that end a text or an attribute value, and every
ampersand in it begins one of five entities. So the entities are found again, and the characters are
put back in their places, also where the text itself reads like an entity.
-/

namespace PagePreview.Html

/-! ## Entities -/

/-- A way to write a character that has a meaning in markup. -/
structure Entity where
  /-- How the character is written. -/
  written : List Char
  /-- The character. -/
  stands : Char

/-- The entities that a text is escaped with. -/
def entities : List Entity :=
  [⟨"&amp;".toList, '&'⟩, ⟨"&quot;".toList, '\x22'⟩, ⟨"&#39;".toList, '\x27'⟩,
    ⟨"&lt;".toList, '<'⟩, ⟨"&gt;".toList, '>'⟩]

/-- A character that ends a text, a tag or an attribute value. -/
def IsMark (c : Char) : Prop := c = '<' ∨ c = '>' ∨ c = '\x22' ∨ c = '\x27'

instance (c : Char) : Decidable (IsMark c) := inferInstanceAs (Decidable (_ ∨ _ ∨ _ ∨ _))

/-- Put the characters in the places of the entities that stand for them, from left to right. What
was put in is not read again. -/
def unescapeChars : List Char → List Char
  | '&' :: 'a' :: 'm' :: 'p' :: ';' :: rest => '&' :: unescapeChars rest
  | '&' :: 'q' :: 'u' :: 'o' :: 't' :: ';' :: rest => '\x22' :: unescapeChars rest
  | '&' :: '#' :: '3' :: '9' :: ';' :: rest => '\x27' :: unescapeChars rest
  | '&' :: 'l' :: 't' :: ';' :: rest => '<' :: unescapeChars rest
  | '&' :: 'g' :: 't' :: ';' :: rest => '>' :: unescapeChars rest
  | c :: rest => c :: unescapeChars rest
  | [] => []

/-- The text that an escaped text stands for. -/
def unescape (text : String) : String := String.ofList (unescapeChars text.toList)

/-- What is written for a mark is read as the mark. -/
theorem unescapeChars_entity {e : Entity} (h : e ∈ entities) (rest : List Char) :
    unescapeChars (e.written ++ rest) = e.stands :: unescapeChars rest := by
  simp only [entities, List.mem_cons, List.not_mem_nil, or_false] at h
  rcases h with rfl | rfl | rfl | rfl | rfl <;> rfl

/-- A character that begins nothing of the kind is read as it is. -/
theorem unescapeChars_cons {c : Char} (h : c ≠ '&') (rest : List Char) :
    unescapeChars (c :: rest) = c :: unescapeChars rest := by
  rw [unescapeChars]
  all_goals
    intros
    contradiction

/-- An entity is an ampersand and plain characters. -/
theorem exists_of_mem_entities {e : Entity} (h : e ∈ entities) :
    ∃ tail, e.written = '&' :: tail ∧ '&' ∉ tail ∧ ∀ c ∈ e.written, ¬IsMark c := by
  simp only [entities, List.mem_cons, List.not_mem_nil, or_false] at h
  rcases h with rfl | rfl | rfl | rfl | rfl <;> exact ⟨_, rfl, by decide, by simp [IsMark]⟩

/-! ## Characters -/

/-- A character is written as its entity if it has one, and otherwise as itself. -/
theorem escapeChar_cases (c : Char) :
    (∃ e ∈ entities, escapeChar c = e.written ∧ e.stands = c) ∨
      (escapeChar c = [c] ∧ c ≠ '&' ∧ ¬IsMark c) := by
  unfold escapeChar
  by_cases hamp : c = '&'
  · exact .inl ⟨⟨"&amp;".toList, '&'⟩, by simp [entities], if_pos hamp, hamp.symm⟩
  rw [if_neg hamp]
  by_cases hquote : c = '\x22'
  · exact .inl ⟨⟨"&quot;".toList, '\x22'⟩, by simp [entities], if_pos hquote, hquote.symm⟩
  rw [if_neg hquote]
  by_cases happ : c = '\x27'
  · exact .inl ⟨⟨"&#39;".toList, '\x27'⟩, by simp [entities], if_pos happ, happ.symm⟩
  rw [if_neg happ]
  by_cases hless : c = '<'
  · exact .inl ⟨⟨"&lt;".toList, '<'⟩, by simp [entities], if_pos hless, hless.symm⟩
  rw [if_neg hless]
  by_cases hgreater : c = '>'
  · exact .inl ⟨⟨"&gt;".toList, '>'⟩, by simp [entities], if_pos hgreater, hgreater.symm⟩
  rw [if_neg hgreater]
  exact .inr ⟨rfl, hamp, by simp [IsMark, hquote, happ, hless, hgreater]⟩

/-- What is written for a character has no mark. -/
theorem not_isMark_of_mem_escapeChar {c d : Char} (h : d ∈ escapeChar c) : ¬IsMark d := by
  rcases escapeChar_cases c with ⟨e, he, hwritten, -⟩ | ⟨hself, -, hplain⟩
  · obtain ⟨-, -, -, hmarks⟩ := exists_of_mem_entities he
    exact hmarks d (hwritten ▸ h)
  · rw [hself, List.mem_singleton] at h
    exact h ▸ hplain

/-- What is written for a character is read as the character. -/
theorem unescapeChars_escapeChar (c : Char) (rest : List Char) :
    unescapeChars (escapeChar c ++ rest) = c :: unescapeChars rest := by
  rcases escapeChar_cases c with ⟨e, he, hwritten, hstands⟩ | ⟨hself, hamp, -⟩
  · rw [hwritten, unescapeChars_entity he, hstands]
  · rw [hself]
    exact unescapeChars_cons hamp rest

/-- An ampersand in what is written for a character and what follows it begins the entity of the
character, or stands in what follows. -/
theorem suffix_escapeChar {c : Char} {front back rest : List Char}
    (h : escapeChar c ++ rest = front ++ '&' :: back) :
    (∃ e ∈ entities, e.written <+: '&' :: back) ∨ '&' :: back <:+ rest := by
  rcases List.append_eq_append_iff.mp h with ⟨between, -, hrest⟩ | ⟨between, hfront, hback⟩
  · exact .inr ⟨between, hrest.symm⟩
  · rcases escapeChar_cases c with ⟨e, he, hwritten, -⟩ | ⟨hself, hamp, -⟩
    · obtain ⟨tail, hentity, htail, -⟩ := exists_of_mem_entities he
      cases front with
      | nil =>
        refine .inl ⟨e, he, rest, ?_⟩
        rw [← hwritten, hfront, hback, List.nil_append]
      | cons d front =>
        -- The ampersand of an entity is its first character.
        rw [hwritten, hentity, List.cons_append, List.cons.injEq] at hfront
        cases between with
        | nil => exact .inr ⟨[], hback⟩
        | cons a between =>
          rw [List.cons_append, List.cons.injEq] at hback
          rw [hfront.2, ← hback.1] at htail
          simp at htail
    · cases between with
      | nil => exact .inr ⟨[], hback⟩
      | cons a between =>
        rw [List.cons_append, List.cons.injEq] at hback
        have hmem : '&' ∈ escapeChar c := by
          rw [hfront, hback.1]
          simp
        rw [hself, List.mem_singleton] at hmem
        exact absurd hmem.symm hamp

/-! ## Texts -/

/-- An escaped text has no mark. -/
theorem not_isMark_of_mem_escape {text : String} {c : Char} (h : c ∈ (escape text).toList) :
    ¬IsMark c := by
  rw [toList_escape, List.mem_flatMap] at h
  obtain ⟨d, -, hc⟩ := h
  exact not_isMark_of_mem_escapeChar hc

/-- Every ampersand of an escaped text begins an entity. -/
theorem exists_entity_of_suffix {text : String} {back : List Char}
    (h : '&' :: back <:+ (escape text).toList) : ∃ e ∈ entities, e.written <+: '&' :: back := by
  rw [toList_escape] at h
  generalize text.toList = cs at h
  induction cs with
  | nil => simp at h
  | cons c cs ih =>
    obtain ⟨front, hfront⟩ := h
    rw [List.flatMap_cons] at hfront
    rcases suffix_escapeChar hfront.symm with hentity | hrest
    · exact hentity
    · exact ih hrest

/-- An escaped text is read as it was. -/
theorem unescape_escape (text : String) : unescape (escape text) = text := by
  have hchars : ∀ cs : List Char, unescapeChars (cs.flatMap escapeChar) = cs := by
    intro cs
    induction cs with
    | nil => rfl
    | cons c cs ih => rw [List.flatMap_cons, unescapeChars_escapeChar, ih]
  rw [unescape, toList_escape, hchars, String.ofList_toList]

/-- Two texts are escaped one behind the other. -/
theorem escape_append (a b : String) : escape (a ++ b) = escape a ++ escape b := by
  apply String.toList_injective
  rw [String.toList_append, toList_escape, toList_escape, toList_escape, String.toList_append,
    List.flatMap_append]

end PagePreview.Html
