import PagePreview.Proofs.Encoding
import PagePreview.Text.Percent

/-!
# Texts in percent-encoding

A text can be encoded in many ways: each of its bytes may be escaped, with digits of either case,
and those that may stand for themselves need not be. However that is done, also within the bytes of
one character, the text is decoded from it. An escaped percent sign is a percent sign, whatever
follows it.
-/

namespace PagePreview.Percent

/-! ## Ways to write bytes -/

/-- A hexadecimal digit, of either case, with a value. -/
def IsHexDigit (n : Nat) (b : UInt8) : Prop :=
  n < 16 ∧ (b = UInt8.ofNat (Ascii.upperHexDigit n).toNat ∨
    b = UInt8.ofNat (Ascii.lowerHexDigit n).toNat)

/-- Bytes, and how they are written: one by one, escaped, or as themselves if they are free to. -/
inductive Written (free : UInt8 → Bool) : Bytes → Bytes → Prop
  /-- Nothing is written as nothing. -/
  | nil : Written free [] []
  /-- A byte that is free may stand for itself. -/
  | literal {b : UInt8} {bytes written : Bytes} (hfree : free b = true)
      (rest : Written free bytes written) : Written free (b :: bytes) (b :: written)
  /-- Any byte may be escaped. -/
  | escaped {b high low : UInt8} {bytes written : Bytes} (hhigh : IsHexDigit (b.toNat / 16) high)
      (hlow : IsHexDigit (b.toNat % 16) low) (rest : Written free bytes written) :
      Written free (b :: bytes) (0x25 :: high :: low :: written)

variable {free : UInt8 → Bool} {bytes written : Bytes}

/-- A digit of an escape is read as its number. -/
theorem hexValue?_of_isHexDigit {n : Nat} {b : UInt8} (h : IsHexDigit n b) :
    Ascii.hexValue? (Char.ofNat b.toNat) = some n := by
  have hupper : ∀ n < 16, Ascii.hexValue?
      (Char.ofNat (UInt8.ofNat (Ascii.upperHexDigit n).toNat).toNat) = some n := by decide
  have hlower : ∀ n < 16, Ascii.hexValue?
      (Char.ofNat (UInt8.ofNat (Ascii.lowerHexDigit n).toNat).toNat) = some n := by decide
  obtain ⟨hn, rfl | rfl⟩ := h
  · exact hupper n hn
  · exact hlower n hn

/-- Every byte that is written is free, a percent sign or a digit. -/
theorem Written.mem (h : Written free bytes written) {b : UInt8} (hb : b ∈ written) :
    free b = true ∨ b = 0x25 ∨ ∃ n, IsHexDigit n b := by
  induction h with
  | nil => cases hb
  | literal hfree rest ih =>
    rcases List.mem_cons.mp hb with rfl | hb
    · exact .inl hfree
    · exact ih hb
  | escaped hhigh hlow rest ih =>
    simp only [List.mem_cons] at hb
    rcases hb with rfl | rfl | rfl | hb
    · exact .inr (.inl rfl)
    · exact .inr (.inr ⟨_, hhigh⟩)
    · exact .inr (.inr ⟨_, hlow⟩)
    · exact ih hb

/-- All bytes can be escaped. -/
theorem written_escapeByte (free : UInt8 → Bool) (bytes : Bytes) :
    Written free bytes ((bytes.flatMap escapeByte).flatMap String.utf8EncodeChar) := by
  have hdigit : ∀ n < 16, String.utf8EncodeChar (Ascii.upperHexDigit n) =
      [UInt8.ofNat (Ascii.upperHexDigit n).toNat] := by decide
  induction bytes with
  | nil => exact .nil
  | cons b bytes ih =>
    have hhigh : b.toNat / 16 < 16 := by
      have hb := b.toNat_lt
      omega
    have hlow : b.toNat % 16 < 16 := Nat.mod_lt _ (by decide)
    have hbytes : (escapeByte b).flatMap String.utf8EncodeChar =
        [0x25, UInt8.ofNat (Ascii.upperHexDigit (b.toNat / 16)).toNat,
          UInt8.ofNat (Ascii.upperHexDigit (b.toNat % 16)).toNat] := by
      simp only [escapeByte, List.flatMap_cons, List.flatMap_nil, hdigit _ hhigh, hdigit _ hlow]
      rfl
    rw [List.flatMap_cons, List.flatMap_append, hbytes]
    exact .escaped ⟨hhigh, .inl rfl⟩ ⟨hlow, .inl rfl⟩ ih

/-! ## Decoding -/

/-- A byte that is no percent sign is read as it is. -/
theorem decodeBytes_cons {b : UInt8} (h : b ≠ 0x25) (rest : Bytes) :
    decodeBytes (b :: rest) = b :: decodeBytes rest := by
  match rest with
  | [] => rfl
  | [c] => rfl
  | c :: d :: rest => rw [decodeBytes, if_neg h]

/-- An escape is read as its byte. -/
theorem decodeBytes_escaped {b high low : UInt8} (hhigh : IsHexDigit (b.toNat / 16) high)
    (hlow : IsHexDigit (b.toNat % 16) low) (rest : Bytes) :
    decodeBytes (0x25 :: high :: low :: rest) = b :: decodeBytes rest := by
  have hvalue : UInt8.ofNat (b.toNat / 16 * 16 + b.toNat % 16) = b := by
    rw [Nat.div_add_mod', UInt8.ofNat_toNat]
  rw [decodeBytes, if_pos rfl, hexValue?_of_isHexDigit hhigh, hexValue?_of_isHexDigit hlow]
  dsimp only
  rw [hvalue]

/-- Bytes are decoded from any way to write them. -/
theorem Written.decodeBytes_eq (h : Written free bytes written) (hpercent : free 0x25 = false) :
    decodeBytes written = bytes := by
  induction h with
  | nil => rfl
  | @literal b bytes written hfree rest ih =>
    have hb : b ≠ 0x25 := by
      rintro rfl
      rw [hpercent] at hfree
      cases hfree
    rw [decodeBytes_cons hb, ih]
  | escaped hhigh hlow rest ih => rw [decodeBytes_escaped hhigh hlow, ih]

/-- A text is decoded from any way to write its bytes. -/
theorem Written.decodeText_eq {text spelled : String}
    (h : Written free (Utf8.encode text) (Utf8.encode spelled)) (hpercent : free 0x25 = false) :
    decodeText spelled = text := by
  have hscan : (Utf8.scan none (Utf8.encode text)).map (·.getD '\uFFFD') = text.toList := by
    rw [Utf8.encode, Utf8.scan_encode, List.map_map]
    exact List.map_id text.toList
  rw [decodeText, h.decodeBytes_eq hpercent, Utf8.decodeLossy, hscan, String.ofList_toList]

end PagePreview.Percent
