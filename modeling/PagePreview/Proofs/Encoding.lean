import PagePreview.Text.Utf8

/-!
# Texts and their bytes

Each scalar value has one well-formed sequence of bytes. The automaton reads this sequence as the
value and stands between two sequences again, and a sequence that it reads without complaint is the
one of the value that it gives. So bytes are read as a text exactly if they are the bytes of this
text.
-/

namespace PagePreview.Utf8

variable {a b c d : UInt8}

/-! ## What the automaton does -/

/-- A byte that is a character is read as one. -/
theorem scan_of_single {x : Char} (h : lead b = .single x) (rest : Bytes) :
    scan none (b :: rest) = some x :: scan none rest := by
  rw [scan]
  unfold step start
  rw [h]
  rfl

/-- A byte that opens a sequence waits for the others. -/
theorem scan_of_opens {p : Pending} (h : lead b = .opens p) (rest : Bytes) :
    scan none (b :: rest) = scan (some p) rest := by
  rw [scan]
  unfold step start
  rw [h]
  rfl

/-- A byte that cannot begin a character is no character. -/
theorem scan_of_illFormed (h : lead b = .illFormed) (rest : Bytes) :
    scan none (b :: rest) = none :: scan none rest := by
  rw [scan]
  unfold step start
  rw [h]
  rfl

/-- The last byte of a sequence completes a value. -/
theorem scan_last {p : Pending} (hlow : p.low ≤ b.toNat) (hhigh : b.toNat ≤ p.high)
    (hp : p.missing ≤ 1) (rest : Bytes) :
    scan (some p) (b :: rest) =
      some (Char.ofNat (p.value * 64 + (b.toNat - 0x80))) :: scan none rest := by
  rw [scan]
  unfold step
  dsimp only
  rw [if_pos ⟨hlow, hhigh⟩, if_pos hp]
  rfl

/-- Another byte is added to the value. -/
theorem scan_more {p : Pending} (hlow : p.low ≤ b.toNat) (hhigh : b.toNat ≤ p.high)
    (hp : 1 < p.missing) (rest : Bytes) :
    scan (some p) (b :: rest) =
      scan (some ⟨p.missing - 1, p.value * 64 + (b.toNat - 0x80), 0x80, 0xBF⟩) rest := by
  rw [scan]
  unfold step
  dsimp only
  rw [if_pos ⟨hlow, hhigh⟩, if_neg (Nat.not_le.mpr hp)]
  rfl

/-- A sequence that was begun goes on with a byte in range, or nothing is read. -/
theorem scan_pending_cases (p : Pending) (bytes : Bytes) :
    (∃ rest, scan (some p) bytes = none :: rest) ∨
      ∃ b rest, bytes = b :: rest ∧ p.low ≤ b.toNat ∧ b.toNat ≤ p.high := by
  cases bytes with
  | nil => exact .inl ⟨[], rfl⟩
  | cons b rest =>
    by_cases hrange : p.low ≤ b.toNat ∧ b.toNat ≤ p.high
    · exact .inr ⟨b, rest, rfl, hrange⟩
    · left
      rw [scan]
      unfold step
      dsimp only
      rw [if_neg hrange]
      exact ⟨_, rfl⟩

/-! ## The sequence of a value -/

/-- A byte after the first. -/
def IsTail (b : UInt8) : Prop := 0x80 ≤ b.toNat ∧ b.toNat ≤ 0xBF

/-- The well-formed sequences, each with its value. -/
inductive Sequence : Bytes → Nat → Prop
  /-- One byte. -/
  | one {a : UInt8} (high : a.toNat < 0x80) : Sequence [a] a.toNat
  /-- Two bytes, not overlong. -/
  | two {a b : UInt8} (low : 0xC2 ≤ a.toNat) (high : a.toNat ≤ 0xDF) (tail : IsTail b) :
      Sequence [a, b] ((a.toNat - 0xC0) * 64 + (b.toNat - 0x80))
  /-- Three bytes: neither overlong nor a surrogate. -/
  | three {a b c : UInt8} (low : 0xE0 ≤ a.toNat) (high : a.toNat ≤ 0xEF) (tail₁ : IsTail b)
      (tail₂ : IsTail c) (overlong : a.toNat = 0xE0 → 0xA0 ≤ b.toNat)
      (surrogate : a.toNat = 0xED → b.toNat ≤ 0x9F) :
      Sequence [a, b, c] (((a.toNat - 0xE0) * 64 + (b.toNat - 0x80)) * 64 + (c.toNat - 0x80))
  /-- Four bytes: neither overlong nor above the last scalar value. -/
  | four {a b c d : UInt8} (low : 0xF0 ≤ a.toNat) (high : a.toNat ≤ 0xF4) (tail₁ : IsTail b)
      (tail₂ : IsTail c) (tail₃ : IsTail d) (overlong : a.toNat = 0xF0 → 0x90 ≤ b.toNat)
      (last : a.toNat = 0xF4 → b.toNat ≤ 0x8F) :
      Sequence [a, b, c, d] ((((a.toNat - 0xF0) * 64 + (b.toNat - 0x80)) * 64 +
        (c.toNat - 0x80)) * 64 + (d.toNat - 0x80))

/-- What a sequence stands for is a scalar value. -/
theorem Sequence.isValidChar {bytes : Bytes} {n : Nat} (h : Sequence bytes n) :
    n.isValidChar := by
  unfold Nat.isValidChar
  cases h with
  | one high => omega
  | two low high tail =>
    unfold IsTail at tail
    omega
  | three low high tail₁ tail₂ overlong surrogate =>
    unfold IsTail at tail₁ tail₂
    omega
  | four low high tail₁ tail₂ tail₃ overlong last =>
    unfold IsTail at tail₁ tail₂ tail₃
    omega

/-- A byte is told by its number. -/
theorem ofNat_eq (b : UInt8) {n : Nat} (h : n = b.toNat) : UInt8.ofNat n = b := by
  rw [h]
  exact UInt8.ofNat_toNat

/-- A character is told by its code point. -/
theorem toNat_val_ofNat {n : Nat} (h : n.isValidChar) : (Char.ofNat n).val.toNat = n := by
  unfold Char.ofNat
  rw [dif_pos h]
  rfl

/-- A sequence is the one that its value is written with. -/
theorem Sequence.encodes {bytes : Bytes} {n : Nat} (h : Sequence bytes n) :
    String.utf8EncodeChar (Char.ofNat n) = bytes := by
  unfold String.utf8EncodeChar
  rw [toNat_val_ofNat h.isValidChar]
  dsimp only
  cases h with
  | one high => rw [if_pos (by omega), ofNat_eq _ rfl]
  | @two a b low high tail =>
    unfold IsTail at tail
    rw [if_neg (by omega), if_pos (by omega), ofNat_eq a (by omega), ofNat_eq b (by omega)]
  | @three a b c low high tail₁ tail₂ overlong surrogate =>
    unfold IsTail at tail₁ tail₂
    rw [if_neg (by omega), if_neg (by omega), if_pos (by omega), ofNat_eq a (by omega),
      ofNat_eq b (by omega), ofNat_eq c (by omega)]
  | @four a b c d low high tail₁ tail₂ tail₃ overlong last =>
    unfold IsTail at tail₁ tail₂ tail₃
    rw [if_neg (by omega), if_neg (by omega), if_neg (by omega), ofNat_eq a (by omega),
      ofNat_eq b (by omega), ofNat_eq c (by omega), ofNat_eq d (by omega)]

/-- Every number below 256 is that of a byte. -/
theorem exists_byte {n : Nat} (h : n < 256) : ∃ b, UInt8.ofNat n = b ∧ b.toNat = n :=
  ⟨_, rfl, UInt8.toNat_ofNat_of_lt' h⟩

/-- Every scalar value is written with a sequence. -/
theorem exists_sequence (x : Char) :
    ∃ n, Sequence (String.utf8EncodeChar x) n ∧ Char.ofNat n = x := by
  have hvalid : x.val.toNat < 0xD800 ∨ 0xDFFF < x.val.toNat ∧ x.val.toNat < 0x110000 := x.valid
  have hx : Char.ofNat x.val.toNat = x := Char.ofNat_toNat x
  refine ⟨x.val.toNat, ?_, hx⟩
  unfold String.utf8EncodeChar
  dsimp only
  generalize x.val.toNat = v at hvalid
  by_cases hone : v ≤ 127
  · obtain ⟨a, ha, hav⟩ := exists_byte (n := v) (by omega)
    have hseq : Sequence [a] a.toNat := .one (by omega)
    rwa [if_pos hone, ha, ← hav]
  obtain ⟨b, hb, hbv⟩ := exists_byte (n := v % 64 + 128) (by omega)
  rw [if_neg hone, hb]
  by_cases htwo : v ≤ 2047
  · obtain ⟨a, ha, hav⟩ := exists_byte (n := v / 64 % 32 + 192) (by omega)
    have hseq : Sequence [a, b] ((a.toNat - 0xC0) * 64 + (b.toNat - 0x80)) :=
      .two (by omega) (by omega) ⟨by omega, by omega⟩
    have hv : (a.toNat - 0xC0) * 64 + (b.toNat - 0x80) = v := by omega
    rwa [if_pos htwo, ha, ← hv]
  obtain ⟨c, hc, hcv⟩ := exists_byte (n := v / 64 % 64 + 128) (by omega)
  rw [if_neg htwo, hc]
  by_cases hthree : v ≤ 65535
  · obtain ⟨a, ha, hav⟩ := exists_byte (n := v / 4096 % 16 + 224) (by omega)
    have hseq : Sequence [a, c, b]
        (((a.toNat - 0xE0) * 64 + (c.toNat - 0x80)) * 64 + (b.toNat - 0x80)) :=
      .three (by omega) (by omega) ⟨by omega, by omega⟩ ⟨by omega, by omega⟩ (by omega) (by omega)
    have hv : ((a.toNat - 0xE0) * 64 + (c.toNat - 0x80)) * 64 + (b.toNat - 0x80) = v := by omega
    rwa [if_pos hthree, ha, ← hv]
  · obtain ⟨a, ha, hav⟩ := exists_byte (n := v / 262144 % 8 + 240) (by omega)
    obtain ⟨d, hd, hdv⟩ := exists_byte (n := v / 4096 % 64 + 128) (by omega)
    have hseq : Sequence [a, d, c, b] ((((a.toNat - 0xF0) * 64 + (d.toNat - 0x80)) * 64 +
        (c.toNat - 0x80)) * 64 + (b.toNat - 0x80)) :=
      .four (by omega) (by omega) ⟨by omega, by omega⟩ ⟨by omega, by omega⟩ ⟨by omega, by omega⟩
        (by omega) (by omega)
    have hv : (((a.toNat - 0xF0) * 64 + (d.toNat - 0x80)) * 64 + (c.toNat - 0x80)) * 64 +
        (b.toNat - 0x80) = v := by omega
    rwa [if_neg hthree, ha, hd, ← hv]

/-! ## Reading a sequence -/

/-- A byte below 0x80 is a character. -/
theorem lead_one (high : a.toNat < 0x80) : lead a = .single (Char.ofNat a.toNat) := by
  unfold lead
  exact if_pos high

/-- A byte from 0xC2 to 0xDF opens a sequence of two. -/
theorem lead_two (low : 0xC2 ≤ a.toNat) (high : a.toNat ≤ 0xDF) :
    lead a = .opens ⟨1, a.toNat - 0xC0, 0x80, 0xBF⟩ := by
  unfold lead
  dsimp only
  rw [if_neg (by omega), if_neg (by omega), if_pos (by omega)]

/-- A byte from 0xE0 to 0xEF opens a sequence of three. After two of them the next byte is bounded
further. -/
theorem lead_three (low : 0xE0 ≤ a.toNat) (high : a.toNat ≤ 0xEF) :
    lead a = .opens ⟨2, a.toNat - 0xE0, if a.toNat = 0xE0 then 0xA0 else 0x80,
      if a.toNat = 0xED then 0x9F else 0xBF⟩ := by
  unfold lead
  dsimp only
  rw [if_neg (by omega), if_neg (by omega), if_neg (by omega)]
  by_cases hoverlong : a.toNat = 0xE0
  · rw [hoverlong]
    rfl
  by_cases hsurrogate : a.toNat = 0xED
  · rw [hsurrogate]
    rfl
  · rw [if_neg hoverlong, if_neg hsurrogate, if_pos (by omega), if_neg hoverlong, if_neg hsurrogate]

/-- A byte from 0xF0 to 0xF4 opens a sequence of four. After two of them the next byte is bounded
further. -/
theorem lead_four (low : 0xF0 ≤ a.toNat) (high : a.toNat ≤ 0xF4) :
    lead a = .opens ⟨3, a.toNat - 0xF0, if a.toNat = 0xF0 then 0x90 else 0x80,
      if a.toNat = 0xF4 then 0x8F else 0xBF⟩ := by
  unfold lead
  dsimp only
  rw [if_neg (by omega), if_neg (by omega), if_neg (by omega), if_neg (by omega),
    if_neg (by omega), if_neg (by omega)]
  by_cases hoverlong : a.toNat = 0xF0
  · rw [hoverlong]
    rfl
  by_cases hlast : a.toNat = 0xF4
  · rw [hlast]
    rfl
  · rw [if_neg hoverlong, if_pos (by omega), if_neg hoverlong, if_neg hlast]

/-- No other byte begins a character. -/
theorem lead_illFormed (h : 0x80 ≤ a.toNat ∧ a.toNat < 0xC2 ∨ 0xF4 < a.toNat) :
    lead a = .illFormed := by
  unfold lead
  dsimp only
  rw [if_neg (by omega)]
  rcases h with h | h
  · rw [if_pos (by omega)]
  · rw [if_neg (by omega), if_neg (by omega), if_neg (by omega), if_neg (by omega),
      if_neg (by omega), if_neg (by omega), if_neg (by omega), if_neg (by omega)]

/-- Between two sequences, a sequence is read as its value. -/
theorem Sequence.scan {bytes : Bytes} {n : Nat} (h : Sequence bytes n) (rest : Bytes) :
    Utf8.scan none (bytes ++ rest) = some (Char.ofNat n) :: Utf8.scan none rest := by
  cases h with
  | one high => exact scan_of_single (lead_one high) rest
  | @two a b low high tail =>
    rw [List.cons_append, List.cons_append, scan_of_opens (lead_two low high)]
    exact scan_last tail.1 tail.2 (Nat.le_refl 1) rest
  | @three a b c low high tail₁ tail₂ overlong surrogate =>
    have hlow : (if a.toNat = 0xE0 then 0xA0 else 0x80) ≤ b.toNat := by
      split
      · exact overlong ‹_›
      · exact tail₁.1
    have hhigh : b.toNat ≤ if a.toNat = 0xED then 0x9F else 0xBF := by
      split
      · exact surrogate ‹_›
      · exact tail₁.2
    rw [List.cons_append, List.cons_append, List.cons_append, scan_of_opens (lead_three low high),
      scan_more hlow hhigh Nat.one_lt_two]
    exact scan_last tail₂.1 tail₂.2 (Nat.le_refl 1) rest
  | @four a b c d low high tail₁ tail₂ tail₃ overlong last =>
    have hlow : (if a.toNat = 0xF0 then 0x90 else 0x80) ≤ b.toNat := by
      split
      · exact overlong ‹_›
      · exact tail₁.1
    have hhigh : b.toNat ≤ if a.toNat = 0xF4 then 0x8F else 0xBF := by
      split
      · exact last ‹_›
      · exact tail₁.2
    rw [List.cons_append, List.cons_append, List.cons_append, List.cons_append,
      scan_of_opens (lead_four low high), scan_more hlow hhigh (Nat.lt_of_sub_eq_succ rfl),
      scan_more tail₂.1 tail₂.2 Nat.one_lt_two]
    exact scan_last tail₃.1 tail₃.2 (Nat.le_refl 1) rest

/-- What is begun and read without complaint goes on with a byte in range. -/
theorem exists_continuation {p : Pending} {bytes : Bytes} (h : none ∉ Utf8.scan (some p) bytes) :
    ∃ b rest, bytes = b :: rest ∧ p.low ≤ b.toNat ∧ b.toNat ≤ p.high := by
  rcases scan_pending_cases p bytes with ⟨rest, hnone⟩ | hbyte
  · rw [hnone] at h
    exact absurd List.mem_cons_self h
  · exact hbyte

/-- Bytes that are read without complaint begin with a sequence. -/
theorem exists_sequence_of_scan {first : UInt8} {bytes : Bytes}
    (h : none ∉ Utf8.scan none (first :: bytes)) :
    ∃ front n rest, first :: bytes = front ++ rest ∧ Sequence front n := by
  by_cases hone : first.toNat < 0x80
  · exact ⟨[first], _, bytes, rfl, .one hone⟩
  by_cases htwo : 0xC2 ≤ first.toNat ∧ first.toNat ≤ 0xDF
  · rw [scan_of_opens (lead_two htwo.1 htwo.2)] at h
    obtain ⟨b, rest, rfl, hb⟩ := exists_continuation h
    exact ⟨[first, b], _, rest, rfl, .two htwo.1 htwo.2 hb⟩
  by_cases hthree : 0xE0 ≤ first.toNat ∧ first.toNat ≤ 0xEF
  · rw [scan_of_opens (lead_three hthree.1 hthree.2)] at h
    obtain ⟨b, more, rfl, hlow, hhigh⟩ := exists_continuation h
    rw [scan_more hlow hhigh Nat.one_lt_two] at h
    obtain ⟨c, rest, rfl, hc⟩ := exists_continuation h
    dsimp only at hlow hhigh
    refine ⟨[first, b, c], _, rest, rfl, .three hthree.1 hthree.2 ?_ hc ?_ ?_⟩
    · constructor <;> grind
    · grind
    · grind
  by_cases hfour : 0xF0 ≤ first.toNat ∧ first.toNat ≤ 0xF4
  · rw [scan_of_opens (lead_four hfour.1 hfour.2)] at h
    obtain ⟨b, more, rfl, hlow, hhigh⟩ := exists_continuation h
    rw [scan_more hlow hhigh (Nat.lt_of_sub_eq_succ rfl)] at h
    obtain ⟨c, more, rfl, hc⟩ := exists_continuation h
    rw [scan_more hc.1 hc.2 Nat.one_lt_two] at h
    obtain ⟨d, rest, rfl, hd⟩ := exists_continuation h
    dsimp only at hlow hhigh
    refine ⟨[first, b, c, d], _, rest, rfl, .four hfour.1 hfour.2 ?_ hc hd ?_ ?_⟩
    · constructor <;> grind
    · grind
    · grind
  · rw [scan_of_illFormed (lead_illFormed (by omega))] at h
    exact absurd List.mem_cons_self h

/-! ## Whole texts -/

/-- What was encoded is read back. -/
theorem scan_encode (chars : List Char) :
    Utf8.scan none (chars.flatMap String.utf8EncodeChar) = chars.map some := by
  induction chars with
  | nil => rfl
  | cons x chars ih =>
    obtain ⟨n, hseq, hx⟩ := exists_sequence x
    rw [List.flatMap_cons, hseq.scan, ih, hx, List.map_cons]

/-- Bytes that are read as characters are their encoding. -/
theorem eq_encode_of_scan {bytes : Bytes} {chars : List Char}
    (h : Utf8.scan none bytes = chars.map some) :
    bytes = chars.flatMap String.utf8EncodeChar := by
  induction chars generalizing bytes with
  | nil =>
    cases bytes with
    | nil => rfl
    | cons first bytes =>
      have hnone : none ∉ Utf8.scan none (first :: bytes) := by
        rw [h]
        exact List.not_mem_nil
      obtain ⟨front, n, rest, hbytes, hseq⟩ := exists_sequence_of_scan hnone
      rw [hbytes, hseq.scan] at h
      cases h
  | cons x chars ih =>
    cases bytes with
    | nil => cases h
    | cons first bytes =>
      have hnone : none ∉ Utf8.scan none (first :: bytes) := by
        rw [h]
        simp
      obtain ⟨front, n, rest, hbytes, hseq⟩ := exists_sequence_of_scan hnone
      rw [hbytes, hseq.scan, List.map_cons] at h
      obtain ⟨hx, hrest⟩ := List.cons.inj h
      cases hx
      rw [hbytes, List.flatMap_cons, hseq.encodes, ih hrest]

/-- Entries are all there if they are those of a list. -/
theorem mapM_id_eq_some_iff {entries : List (Option Char)} {chars : List Char} :
    entries.mapM id = some chars ↔ entries = chars.map some := by
  induction entries generalizing chars with
  | nil => cases chars <;> simp
  | cons entry entries ih =>
    cases entry with
    | none => cases chars <;> simp
    | some x =>
      have hcons : (some x :: entries).mapM id = (entries.mapM id).map (x :: ·) := by
        rw [List.mapM_cons]
        cases entries.mapM id <;> rfl
      rw [hcons, Option.map_eq_some_iff]
      cases chars with
      | nil => simp
      | cons y chars =>
        constructor
        · rintro ⟨rest, hrest, hxy⟩
          obtain ⟨rfl, rfl⟩ := List.cons.inj hxy
          rw [ih.mp hrest, List.map_cons]
        · intro h
          obtain ⟨hx, hrest⟩ := List.cons.inj h
          cases hx
          exact ⟨chars, ih.mpr hrest, rfl⟩

/-- Bytes are read as a text exactly if they are the bytes of the text. -/
theorem decode?_eq_some_iff {bytes : Bytes} {text : String} :
    decode? bytes = some text ↔ bytes = encode text := by
  unfold decode? encode
  rw [Option.map_eq_some_iff]
  constructor
  · rintro ⟨chars, hchars, rfl⟩
    rw [String.toList_ofList]
    exact eq_encode_of_scan (mapM_id_eq_some_iff.mp hchars)
  · rintro rfl
    exact ⟨text.toList, mapM_id_eq_some_iff.mpr (scan_encode text.toList), String.ofList_toList⟩

/-- Texts with the same bytes are the same. -/
theorem encode_injective {a b : String} (h : encode a = encode b) : a = b := by
  have hb := decode?_eq_some_iff.mpr h
  have ha : decode? (encode a) = some a := decode?_eq_some_iff.mpr rfl
  rw [ha] at hb
  exact Option.some.inj hb

/-! ## Cutting the bytes of a text -/

/-- The bytes of two texts stand one behind the other. -/
theorem encode_append (a b : String) : encode (a ++ b) = encode a ++ encode b := by
  unfold encode
  rw [String.toList_append, List.flatMap_append]

/-- A sequence begins with a byte that is not one after the first. -/
theorem Sequence.exists_first {bytes : Bytes} {n : Nat} (h : Sequence bytes n) :
    ∃ first rest, bytes = first :: rest ∧ ¬IsTail first := by
  unfold IsTail
  cases h with
  | one high => exact ⟨_, _, rfl, by omega⟩
  | two low high tail => exact ⟨_, _, rfl, by omega⟩
  | three low high tail₁ tail₂ overlong surrogate => exact ⟨_, _, rfl, by omega⟩
  | four low high tail₁ tail₂ tail₃ overlong last => exact ⟨_, _, rfl, by omega⟩

/-- All other bytes of a sequence are bytes after the first. -/
theorem Sequence.isTail_of_mem {first b : UInt8} {rest : Bytes} {n : Nat}
    (h : Sequence (first :: rest) n) (hb : b ∈ rest) : IsTail b := by
  cases h with
  | one high => cases hb
  | two low high tail => simpa [List.mem_singleton.mp hb] using tail
  | three low high tail₁ tail₂ overlong surrogate =>
    simp only [List.mem_cons, List.not_mem_nil, or_false] at hb
    rcases hb with rfl | rfl <;> assumption
  | four low high tail₁ tail₂ tail₃ overlong last =>
    simp only [List.mem_cons, List.not_mem_nil, or_false] at hb
    rcases hb with rfl | rfl | rfl <;> assumption

/-- The byte of an ASCII character stands in the bytes of a text only for this character. -/
theorem mem_of_mem_encode {b : UInt8} (hb : b.toNat < 0x80) {text : String}
    (h : b ∈ encode text) : Char.ofNat b.toNat ∈ text.toList := by
  obtain ⟨c, hc, hmem⟩ := List.mem_flatMap.mp h
  obtain ⟨n, hseq, rfl⟩ := exists_sequence c
  obtain ⟨first, rest, hbytes, -⟩ := hseq.exists_first
  rw [hbytes] at hseq hmem
  rcases List.mem_cons.mp hmem with rfl | hrest
  · cases hseq with
    | one high => exact hc
    | two low high tail => omega
    | three low high tail₁ tail₂ overlong surrogate => omega
    | four low high tail₁ tail₂ tail₃ overlong last => omega
  · have htail := hseq.isTail_of_mem hrest
    unfold IsTail at htail
    omega

end PagePreview.Utf8
