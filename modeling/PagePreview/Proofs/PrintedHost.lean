import PagePreview.Proofs.LetterCase
import PagePreview.WebUrl.Parser

/-!
# What hosts are printed with

The host of a URL with a special scheme is printed in ASCII. A domain name has been mapped and each
of its labels written in ASCII, and no character that domain names may not hold is left. An address
of four bytes has digits and dots, and one of eight groups has at most eight colons.
-/

namespace PagePreview

namespace Punycode

/-- The digits of an encoded label are letters and digits. -/
theorem isAlphanumeric_digitOf {d : Nat} (h : d < 36) : Ascii.isAlphanumeric (digitOf d) := by
  have hall : ∀ d < 36, Ascii.isAlphanumeric (digitOf d) := by decide
  exact hall d h

/-- A threshold lies between 1 and 26. -/
theorem threshold_le (k bias : Nat) : 1 ≤ threshold k bias ∧ threshold k bias ≤ 26 := by
  unfold threshold
  omega

/-- A number is written in letters and digits. -/
theorem isAlphanumeric_of_mem_numberDigits {fuel bias k q : Nat} {c : Char}
    (h : c ∈ numberDigits fuel bias k q) : Ascii.isAlphanumeric c := by
  induction fuel generalizing k q with
  | zero => cases h
  | succ fuel ih =>
    obtain ⟨hpos, hle⟩ := threshold_le k bias
    unfold numberDigits at h
    dsimp only at h
    split at h
    · rw [List.mem_singleton.mp h]
      exact isAlphanumeric_digitOf (by omega)
    · rcases List.mem_cons.mp h with rfl | h
      · have hmod : (q - threshold k bias) % (36 - threshold k bias) < 36 - threshold k bias :=
          Nat.mod_lt _ (by omega)
        exact isAlphanumeric_digitOf (by omega)
      · exact ih h

/-- Nothing but digits has been written so far. -/
def Encoder.WritesDigits (e : Encoder) : Prop := ∀ c ∈ e.out, Ascii.isAlphanumeric c

/-- A code point that is passed over or written adds letters and digits only. -/
theorem Encoder.WritesDigits.pass {e : Encoder} (h : e.WritesDigits) (basic n c : Nat) :
    (e.pass basic n c).WritesDigits := by
  unfold Encoder.pass
  split
  · exact h
  split
  · intro x hx
    rcases List.mem_append.mp hx with hx | hx
    · exact h x hx
    · exact isAlphanumeric_of_mem_numberDigits hx
  · exact h

/-- So do all code points together. -/
theorem Encoder.WritesDigits.encodeValues {e : Encoder} (h : e.WritesDigits) (input : List Nat)
    (basic : Nat) (values : List Nat) (n : Nat) :
    (Punycode.encodeValues input basic values n e).WritesDigits := by
  induction values generalizing n e with
  | nil => exact h
  | cons m rest ih =>
    have hpass : ∀ (xs : List Nat) (e : Encoder), e.WritesDigits →
        (xs.foldl (Encoder.pass basic m) e).WritesDigits := by
      intro xs
      induction xs with
      | nil => exact fun e he => he
      | cons x xs ihxs => exact fun e he => ihxs _ (he.pass basic m x)
    unfold Punycode.encodeValues
    apply ih
    exact hpass input { e with delta := e.delta + (m - n) * (e.handled + 1) } h

/-- A label is written with its own ASCII characters, hyphens, letters and digits. -/
theorem mem_encode {label : List Nat} {c : Char} (h : c ∈ encode label) :
    (∃ n ∈ label, n < 0x80 ∧ Char.ofNat n = c) ∨ c = '-' ∨ Ascii.isAlphanumeric c := by
  unfold encode at h
  dsimp only at h
  rw [List.append_assoc] at h
  rcases List.mem_append.mp h with h | h
  · obtain ⟨n, hn, hc⟩ := List.mem_map.mp h
    obtain ⟨hmem, hlt⟩ := List.mem_filter.mp hn
    exact .inl ⟨n, hmem, of_decide_eq_true hlt, hc⟩
  rcases List.mem_append.mp h with h | h
  · split at h
    · cases h
    · exact .inr (.inl (List.mem_singleton.mp h))
  · have hstart : Encoder.WritesDigits ⟨[], 0, 72, (label.filter (· < 0x80)).length⟩ := nofun
    exact .inr (.inr (hstart.encodeValues label _ _ _ c h))

end Punycode

namespace Domain

/-- A character that may stand in the ASCII form of a domain name. -/
def IsPlain (c : Char) : Prop := c.toNat < 0x80 ∧ isForbidden c.toNat = false

/-- Letters and digits may stand in a domain name. -/
theorem isPlain_of_isAlphanumeric {c : Char} (h : Ascii.isAlphanumeric c) : IsPlain c := by
  have hc := Ascii.toNat_lt_of_isAlphanumeric h
  refine ⟨hc, ?_⟩
  revert h
  exact Ascii.forall_lt (P := fun c => Ascii.isAlphanumeric c → isForbidden c.toNat = false)
    (by decide) hc

/-- So may every character of ASCII that is not forbidden. -/
theorem isPlain_ofNat {n : Nat} (hn : n < 0x80) (hf : isForbidden n = false) :
    IsPlain (Char.ofNat n) := by
  have hvalid : n.isValidChar := .inl (by omega)
  have htoNat : (Char.ofNat n).toNat = n := by
    unfold Char.ofNat
    rw [dif_pos hvalid]
    rfl
  unfold IsPlain
  rw [htoNat]
  exact ⟨hn, hf⟩

/-- A valid label is written with plain characters. -/
theorem isPlain_of_mem_encodeLabel {label : List Nat} (h : isValidLabel label) {c : Char}
    (hc : c ∈ encodeLabel label) : IsPlain c := by
  have hlabel : ∀ n ∈ label, isForbidden n = false := by
    unfold isValidLabel at h
    simp only [Bool.and_eq_true, List.all_eq_true, Bool.not_eq_true'] at h
    exact h.1.2
  unfold encodeLabel at hc
  by_cases hascii : label.all (· < 0x80) = true
  · rw [if_pos hascii] at hc
    obtain ⟨n, hn, rfl⟩ := List.mem_map.mp hc
    exact isPlain_ofNat (of_decide_eq_true (List.all_eq_true.mp hascii n hn)) (hlabel n hn)
  rw [if_neg hascii] at hc
  rcases List.mem_append.mp hc with hc | hc
  · have hmark : "xn--".toList.all fun c => c.toNat < 0x80 && !isForbidden c.toNat := by decide
    have hplain := List.all_eq_true.mp hmark c hc
    simp only [Bool.and_eq_true, decide_eq_true_eq, Bool.not_eq_true'] at hplain
    exact hplain
  rcases Punycode.mem_encode hc with ⟨n, hn, hlt, rfl⟩ | rfl | hc
  · exact isPlain_ofNat hlt (hlabel n hn)
  · exact ⟨by decide, by decide⟩
  · exact isPlain_of_isAlphanumeric hc

/-- A joined name has dots and the characters of its labels. -/
theorem mem_joinDots {labels : List (List Char)} {c : Char} (h : c ∈ joinDots labels) :
    c = '.' ∨ ∃ label ∈ labels, c ∈ label := by
  fun_induction joinDots labels with
  | case1 => cases h
  | case2 label => exact .inr ⟨label, List.mem_singleton_self label, h⟩
  | case3 label rest hrest ih =>
    rcases List.mem_append.mp h with h | h
    · exact .inr ⟨label, List.mem_cons_self, h⟩
    rcases List.mem_cons.mp h with h | h
    · exact .inl h
    rcases ih h with h | ⟨other, hother, h⟩
    · exact .inl h
    · exact .inr ⟨other, List.mem_cons_of_mem label hother, h⟩

/-- The ASCII form of a domain name has plain characters only. -/
theorem isPlain_of_mem_toAscii? {name ascii : List Char} (h : toAscii? name = some ascii)
    {c : Char} (hc : c ∈ ascii) : IsPlain c := by
  unfold toAscii? at h
  simp only [Option.bind_eq_bind, Option.bind_eq_some_iff] at h
  obtain ⟨points, _, labels, _, h⟩ := h
  split at h
  case isTrue hvalid =>
    cases h
    rw [Bool.and_eq_true, List.all_eq_true] at hvalid
    rcases mem_joinDots hc with rfl | ⟨written, hwritten, hc⟩
    · exact ⟨by decide, by decide⟩
    · obtain ⟨label, hlabel, rfl⟩ := List.mem_map.mp hwritten
      exact isPlain_of_mem_encodeLabel (hvalid.1 label hlabel) hc
  case isFalse => cases h

end Domain

namespace Address

/-! ## Digits -/

/-- Numbers are written with letters and digits. -/
theorem isAlphanumeric_of_mem_toDigits {base n : Nat} (hone : 1 < base) (hbase : base ≤ 16)
    {c : Char} (h : c ∈ Nat.toDigits base n) : Ascii.isAlphanumeric c := by
  have hdigit : ∀ d < 16, Ascii.isAlphanumeric (Nat.digitChar d) := by decide
  induction n using Nat.strongRecOn with
  | ind n ih =>
    rw [Nat.toDigits_eq_if hone] at h
    split at h
    · rw [List.mem_singleton.mp h]
      exact hdigit n (by omega)
    rcases List.mem_append.mp h with h | h
    · exact ih (n / base) (Nat.div_lt_self (by omega) hone) h
    · have hmod : n % base < base := Nat.mod_lt n (by omega)
      rw [List.mem_singleton.mp h]
      exact hdigit _ (by omega)

/-! ## Four bytes -/

/-- A printed address of four numbers has characters of a domain name. -/
theorem isPlain_of_mem_ipv4Text {n : Nat} {c : Char} (h : c ∈ ipv4Text n) :
    Domain.IsPlain c := by
  have hparts : ∀ parts : List (List Char), (∀ part ∈ parts, ∀ c ∈ part, Domain.IsPlain c) →
      ∀ c ∈ parts.foldr (fun part rest => if rest.isEmpty then part else part ++ '.' :: rest) [],
        Domain.IsPlain c := by
    intro parts hparts
    induction parts with
    | nil => nofun
    | cons part rest ih =>
      have hrest := ih fun other hother => hparts other (List.mem_cons_of_mem part hother)
      intro c hc
      rw [List.foldr_cons] at hc
      split at hc
      · exact hparts part List.mem_cons_self c hc
      rcases List.mem_append.mp hc with hc | hc
      · exact hparts part List.mem_cons_self c hc
      rcases List.mem_cons.mp hc with rfl | hc
      · exact ⟨by decide, by decide⟩
      · exact hrest c hc
  refine hparts _ (fun part hpart c hc => ?_) c h
  obtain ⟨m, _, rfl⟩ := List.mem_map.mp hpart
  exact Domain.isPlain_of_isAlphanumeric
    (isAlphanumeric_of_mem_toDigits (by decide) (by decide) hc)

/-- A printed address of four numbers is not empty. -/
theorem ipv4Text_ne_nil (n : Nat) : ipv4Text n ≠ [] := by
  unfold ipv4Text
  rw [List.map_cons, List.foldr_cons]
  split
  · exact Nat.toDigits_ne_nil
  · simp

/-! ## Eight groups -/

/-- An address in brackets has eight groups. -/
theorem length_of_ipv6? {cs : List Char} {groups : List Nat} (h : ipv6? cs = some groups) :
    groups.length = 8 := by
  unfold ipv6? at h
  split at h
  · simp only [Option.bind_eq_bind, Option.bind_eq_some_iff] at h
    obtain ⟨a, _, b, _, h⟩ := h
    split at h
    · cases h
      simp only [List.length_append, List.length_replicate]
      omega
    · cases h
  · simp only [Option.bind_eq_bind, Option.bind_eq_some_iff] at h
    obtain ⟨a, _, h⟩ := h
    split at h
    · cases h
      assumption
    · cases h

/-- A number has no colon. -/
theorem colons_toDigits (n : Nat) : (Nat.toDigits 16 n).count ':' = 0 := by
  rw [List.count_eq_zero]
  intro h
  exact absurd (isAlphanumeric_of_mem_toDigits (by decide) (by decide) h) (by decide)

/-- Groups have a colon between any two of them. -/
theorem colons_groupsText (groups : List Nat) :
    (groupsText groups).count ':' = groups.length - 1 := by
  fun_induction groupsText groups with
  | case1 => rfl
  | case2 n => exact colons_toDigits n
  | case3 n rest hrest ih =>
    have hpos : rest.length ≠ 0 := by simpa using hrest
    rw [List.count_append, List.count_cons_self, colons_toDigits, ih, List.length_cons]
    omega

/-- Printed groups have letters, digits and colons. -/
theorem mem_groupsText {groups : List Nat} {c : Char} (h : c ∈ groupsText groups) :
    Ascii.isAlphanumeric c ∨ c = ':' := by
  fun_induction groupsText groups with
  | case1 => cases h
  | case2 n => exact .inl (isAlphanumeric_of_mem_toDigits (by decide) (by decide) h)
  | case3 n rest hrest ih =>
    rcases List.mem_append.mp h with h | h
    · exact .inl (isAlphanumeric_of_mem_toDigits (by decide) (by decide) h)
    rcases List.mem_cons.mp h with h | h
    · exact .inr h
    · exact ih h

/-- The longest run of zeros is inside the groups. -/
theorem longestZeros_le (start : Nat) (groups : List Nat) :
    (longestZeros start groups).1 + (longestZeros start groups).2 ≤ start + groups.length := by
  induction groups generalizing start with
  | nil => exact Nat.zero_le start
  | cons n rest ih =>
    have hrun : zeroRun (n :: rest) ≤ (n :: rest).length :=
      (List.takeWhile_sublist _).length_le
    have hrest := ih (start + 1)
    rw [List.length_cons] at hrun ⊢
    unfold longestZeros
    dsimp only
    split
    · dsimp only
      omega
    · dsimp only
      omega

/-- A printed address of eight groups has no more than eight colons. -/
theorem colons_ipv6Text {groups : List Nat} (h : groups.length = 8) :
    (ipv6Text groups).count ':' ≤ 8 := by
  have hinside := longestZeros_le 0 groups
  unfold ipv6Text
  dsimp only
  split
  · rw [colons_groupsText]
    omega
  · simp only [List.count_append, colons_groupsText, List.length_take, List.length_drop]
    have htwo : [':', ':'].count ':' = 2 := rfl
    omega

/-- It has letters, digits and colons. -/
theorem mem_ipv6Text {groups : List Nat} {c : Char} (h : c ∈ ipv6Text groups) :
    Ascii.isAlphanumeric c ∨ c = ':' := by
  unfold ipv6Text at h
  dsimp only at h
  split at h
  · exact mem_groupsText h
  rcases List.mem_append.mp h with h | h
  · rcases List.mem_append.mp h with h | h
    · exact mem_groupsText h
    · right
      simpa using h
  · exact mem_groupsText h

end Address

/-- What the host of a special scheme is printed as. -/
inductive PrintedHost : List Char → Prop
  /-- A name, or an address of four bytes. -/
  | name {cs : List Char} (some : cs ≠ []) (plain : ∀ c ∈ cs, Domain.IsPlain c) : PrintedHost cs
  /-- An address of eight groups in brackets. -/
  | bracketed {cs : List Char} (chars : ∀ c ∈ cs, Ascii.isAlphanumeric c ∨ c = ':')
      (colons : cs.count ':' ≤ 8) : PrintedHost ('[' :: (cs ++ [']']))

/-- A printed host is not empty. -/
theorem PrintedHost.ne_nil {cs : List Char} (h : PrintedHost cs) : cs ≠ [] := by
  cases h with
  | name some plain => exact some
  | bracketed chars colons => exact List.cons_ne_nil _ _

namespace WebUrl

/-- An address in brackets is printed as one. -/
theorem printed_of_bracketHost? {cs : List Char} {host : Host} (h : bracketHost? cs = some host) :
    PrintedHost host.text.toList := by
  unfold bracketHost? at h
  split at h
  · obtain ⟨groups, hgroups, rfl⟩ := Option.map_eq_some_iff.mp h
    have hlength := Address.length_of_ipv6? hgroups
    unfold Host.text
    dsimp only
    rw [String.toList_ofList]
    exact .bracketed (fun c => Address.mem_ipv6Text) (Address.colons_ipv6Text hlength)
  · cases h

/-- The host of a special scheme is printed in this form. -/
theorem printed_of_specialHost? {cs : List Char} {host : Host} (h : specialHost? cs = some host) :
    PrintedHost host.text.toList := by
  unfold specialHost? at h
  split at h
  · exact printed_of_bracketHost? h
  simp only [Option.bind_eq_bind, Option.bind_eq_some_iff] at h
  obtain ⟨name, _, ascii, hascii, h⟩ := h
  by_cases hempty : ascii.isEmpty = true
  · rw [if_pos hempty] at h
    cases h
  rw [if_neg hempty] at h
  split at h
  · obtain ⟨address, _, rfl⟩ := Option.map_eq_some_iff.mp h
    unfold Host.text
    dsimp only
    rw [String.toList_ofList]
    exact .name (Address.ipv4Text_ne_nil address) fun c => Address.isPlain_of_mem_ipv4Text
  · cases h
    unfold Host.text
    dsimp only
    rw [String.toList_ofList]
    exact .name (by simpa using hempty) fun c => Domain.isPlain_of_mem_toAscii? hascii

end WebUrl

end PagePreview
