import PagePreview.Proofs.Encoding
import PagePreview.Text.Ascii

/-!
# ASCII characters and their case

Two texts are the same up to the case of ASCII letters if they have the same lower-case form. Then
they are equally long, in characters and in bytes.
-/

namespace PagePreview.Ascii

/-- A property of ASCII characters can be tested on all of them. -/
theorem forall_lt {P : Char → Prop} (h : ∀ n < 0x80, P (Char.ofNat n)) {c : Char}
    (hc : c.toNat < 0x80) : P c := by
  rw [← Char.ofNat_toNat c]
  exact h c.toNat hc

/-- Characters are ordered by their code points. -/
theorem toNat_le_of_le {c d : Char} (h : c ≤ d) : c.toNat ≤ d.toNat :=
  UInt32.le_iff_toNat_le.mp h

/-- Letters and digits are characters of ASCII. -/
theorem toNat_lt_of_isAlphanumeric {c : Char} (h : isAlphanumeric c) : c.toNat < 0x80 := by
  have hle : c ≤ 'z' ∨ c ≤ 'Z' ∨ c ≤ '9' := by
    unfold isAlphanumeric isLetter isDigit at h
    simp only [Bool.or_eq_true, Bool.and_eq_true, decide_eq_true_eq] at h
    rcases h with (h | h) | h
    · exact .inl h.2
    · exact .inr (.inl h.2)
    · exact .inr (.inr h.2)
  rcases hle with h | h | h
  · exact Nat.lt_of_le_of_lt (toNat_le_of_le h) (by decide)
  · exact Nat.lt_of_le_of_lt (toNat_le_of_le h) (by decide)
  · exact Nat.lt_of_le_of_lt (toNat_le_of_le h) (by decide)

/-! ## Lower case -/

/-- Texts are the same in any case if their lower-case forms are. -/
theorem sameIgnoringCase_iff {a b : String} :
    sameIgnoringCase a b = true ↔ a.toList.map lower = b.toList.map lower := by
  unfold sameIgnoringCase
  rw [beq_iff_eq]

/-- Then they have as many characters. -/
theorem length_of_sameIgnoringCase {a b : String} (h : sameIgnoringCase a b = true) :
    a.toList.length = b.toList.length := by
  have hlength := congrArg List.length (sameIgnoringCase_iff.mp h)
  rwa [List.length_map, List.length_map] at hlength

/-- Then each has the characters of the other in some case. -/
theorem lower_mem_of_sameIgnoringCase {a b : String} (h : sameIgnoringCase a b = true) {c : Char}
    (hc : c ∈ a.toList) : lower c ∈ b.toList.map lower := by
  rw [← sameIgnoringCase_iff.mp h]
  exact List.mem_map_of_mem hc

/-- Characters outside ASCII have no other case here. -/
theorem lower_of_high {c : Char} (h : ¬c.toNat < 0x80) : lower c = c := by
  unfold lower
  rw [if_neg]
  rintro ⟨-, hle⟩
  exact h (Nat.lt_of_le_of_lt (toNat_le_of_le hle) (by decide))

/-- Only the slash is the lower-case form of a slash. -/
theorem eq_slash_of_lower {c : Char} (h : lower c = '/') : c = '/' := by
  by_cases hc : c.toNat < 0x80
  · exact forall_lt (P := fun c => lower c = '/' → c = '/') (by decide) hc h
  · rwa [lower_of_high hc] at h

/-- A letter has as many bytes in lower case. -/
theorem utf8Size_lower (c : Char) : (lower c).utf8Size = c.utf8Size := by
  by_cases hc : c.toNat < 0x80
  · exact forall_lt (P := fun c => (lower c).utf8Size = c.utf8Size) (by decide) hc
  · rw [lower_of_high hc]

/-- Texts that are the same in any case have as many bytes. -/
theorem length_encode_of_sameIgnoringCase {a b : String} (h : sameIgnoringCase a b = true) :
    (Utf8.encode a).length = (Utf8.encode b).length := by
  have hbytes : ∀ text : String, (Utf8.encode text).length =
      ((text.toList.map lower).map Char.utf8Size).sum := by
    intro text
    unfold Utf8.encode
    rw [List.length_flatMap, List.map_map]
    simp only [String.length_utf8EncodeChar, Function.comp_def, utf8Size_lower]
  rw [hbytes, hbytes, sameIgnoringCase_iff.mp h]

end PagePreview.Ascii
