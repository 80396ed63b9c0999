import PagePreview.Proofs.PrintedHost
import PagePreview.Proofs.Words
import PagePreview.Request.Target

/-!
# Hosts in request targets

A request target allows fewer characters in its authority than a domain name may hold: quotation
marks, backquotes and braces are left out. A printed host without these characters can be an
authority, with a port or without one, and a host with one of them cannot.
-/

namespace PagePreview

namespace RequestTarget

/-- A character that a domain name may hold and an authority may not. -/
def isStray (c : Char) : Bool := c == '\x22' || c == '\x60' || c == '\x7b' || c == '\x7d'

/-- A character without a meaning of its own in an authority. -/
def isInert (c : Char) : Bool :=
  c != ':' && c != '[' && c != ']' && c != '@' && c != '%' && !endsAuthority c

/-- A character of a domain name has no meaning of its own in an authority. -/
theorem isInert_of_isPlain {c : Char} (h : Domain.IsPlain c) : isInert c := by
  obtain ⟨hc, hf⟩ := h
  revert hf
  exact Ascii.forall_lt (P := fun c => Domain.isForbidden c.toNat = false → isInert c)
    (by decide) hc

/-- It may stand in an authority unless it is one of the few that are left out. -/
theorem isAuthorityChar_of_isPlain {c : Char} (h : Domain.IsPlain c) :
    isAuthorityChar c = !isStray c := by
  obtain ⟨hc, hf⟩ := h
  revert hf
  exact Ascii.forall_lt
    (P := fun c => Domain.isForbidden c.toNat = false → isAuthorityChar c = !isStray c)
    (by decide) hc

/-- Letters and digits are not left out. -/
theorem not_isStray_of_isAlphanumeric {c : Char} (h : Ascii.isAlphanumeric c) :
    isStray c = false := by
  have hc := Ascii.toNat_lt_of_isAlphanumeric h
  revert h
  exact Ascii.forall_lt (P := fun c => Ascii.isAlphanumeric c → isStray c = false) (by decide) hc

variable {a : Authority}

/-! ## One character -/

namespace Authority

/-- A character without a meaning of its own is taken in if it may stand there. -/
theorem step_inert {c : Char} (h : isInert c) :
    a.step c = if isAuthorityChar c then .ok { a with afterAt := false }
      else .error .invalidCharacter := by
  unfold isInert at h
  simp only [Bool.and_eq_true, bne_iff_ne, ne_eq] at h
  obtain ⟨⟨⟨⟨⟨hcolon, hopen⟩, hclose⟩, hat⟩, hpercent⟩, _⟩ := h
  unfold step
  rw [if_neg hcolon, if_neg hopen, if_neg hclose, if_neg hat, if_neg hpercent]

/-- A character of a domain name that may stand there changes nothing. -/
theorem step_plain {c : Char} (h : Domain.IsPlain c) (hs : isStray c = false)
    (ha : a.afterAt = false) : a.step c = .ok a := by
  have hauthority : isAuthorityChar c = true := by
    rw [isAuthorityChar_of_isPlain h, hs]
    rfl
  rw [step_inert (isInert_of_isPlain h), if_pos hauthority, ← ha]

/-- One that is left out is refused. -/
theorem step_stray {c : Char} (h : Domain.IsPlain c) (hs : isStray c = true) :
    a.step c = .error .invalidCharacter := by
  rw [step_inert (isInert_of_isPlain h), isAuthorityChar_of_isPlain h, hs]
  rfl

/-- A colon is counted, as long as there are not too many. -/
theorem step_colon (ha : a.afterAt = false) (hcolons : a.colons < maxColons) :
    a.step ':' = .ok { a with colons := a.colons + 1 } := by
  unfold step
  rw [if_pos rfl, if_neg (Nat.not_le.mpr hcolons), ← ha]

end Authority

/-! ## Runs of characters -/

/-- A domain name whose characters all may stand there changes nothing. -/
theorem foldlM_plain {cs : List Char} (h : ∀ c ∈ cs, Domain.IsPlain c ∧ isStray c = false)
    (ha : a.afterAt = false) : cs.foldlM Authority.step a = .ok a := by
  induction cs with
  | nil => rfl
  | cons c cs ih =>
    obtain ⟨hplain, hstray⟩ := h c List.mem_cons_self
    rw [List.foldlM_cons, Authority.step_plain hplain hstray ha]
    exact ih fun x hx => h x (List.mem_cons_of_mem c hx)

/-- A domain name with a character that is left out is refused. -/
theorem foldlM_stray {cs : List Char} (h : ∀ c ∈ cs, Domain.IsPlain c)
    (hs : ∃ c ∈ cs, isStray c) (ha : a.afterAt = false) :
    cs.foldlM Authority.step a = .error .invalidCharacter := by
  induction cs with
  | nil =>
    obtain ⟨c, hc, _⟩ := hs
    cases hc
  | cons c cs ih =>
    have hplain := h c List.mem_cons_self
    rw [List.foldlM_cons]
    by_cases hstray : isStray c
    · rw [Authority.step_stray hplain hstray]
      rfl
    · rw [Authority.step_plain hplain (Bool.eq_false_iff.mpr hstray) ha]
      refine ih (fun x hx => h x (List.mem_cons_of_mem c hx)) ?_
      obtain ⟨x, hx, hsx⟩ := hs
      rcases List.mem_cons.mp hx with rfl | hx
      · exact absurd hsx hstray
      · exact ⟨x, hx, hsx⟩

/-- Colons are counted. -/
theorem foldlM_colons {cs : List Char} (h : ∀ c ∈ cs, Ascii.isAlphanumeric c ∨ c = ':')
    (ha : a.afterAt = false) (hcolons : a.colons + cs.count ':' ≤ maxColons) :
    cs.foldlM Authority.step a = .ok { a with colons := a.colons + cs.count ':' } := by
  induction cs generalizing a with
  | nil => rfl
  | cons c cs ih =>
    have hrest : ∀ x ∈ cs, Ascii.isAlphanumeric x ∨ x = ':' :=
      fun x hx => h x (List.mem_cons_of_mem c hx)
    rw [List.foldlM_cons]
    rcases h c List.mem_cons_self with hc | rfl
    · have hne : c ≠ ':' := by
        rintro rfl
        exact absurd hc (by decide)
      rw [List.count_cons_of_ne hne] at hcolons ⊢
      rw [Authority.step_plain (Domain.isPlain_of_isAlphanumeric hc)
        (not_isStray_of_isAlphanumeric hc) ha]
      exact ih hrest ha hcolons
    · rw [List.count_cons_self] at hcolons ⊢
      rw [Authority.step_colon ha (by omega)]
      have hnext := ih (a := { a with colons := a.colons + 1 }) hrest ha (by dsimp only; omega)
      rw [Nat.add_comm (cs.count ':'), ← Nat.add_assoc]
      exact hnext

/-! ## Whole authorities -/

/-- What has been seen after a printed host, in brackets or not. -/
def hostSeen (bracketed : Bool) : Authority := ⟨0, bracketed, bracketed, false, false⟩

/-- A printed host without such a character is taken in. -/
theorem foldlM_printed {host : List Char} (h : PrintedHost host)
    (hs : ∀ c ∈ host, isStray c = false) :
    ∃ bracketed, host.foldlM Authority.step Authority.start = .ok (hostSeen bracketed) := by
  cases h with
  | name some plain => exact ⟨false, foldlM_plain (fun c hc => ⟨plain c hc, hs c hc⟩) rfl⟩
  | @bracketed cs chars colons =>
    refine ⟨true, ?_⟩
    have hopen : Authority.start.step '[' = .ok { Authority.start with opened := true } := rfl
    have hgroups := foldlM_colons (a := { Authority.start with opened := true }) chars rfl
      (Nat.le_trans (Nat.le_of_eq (Nat.zero_add _)) colons)
    rw [List.foldlM_cons, hopen]
    change (cs ++ [']']).foldlM Authority.step { Authority.start with opened := true } = _
    rw [List.foldlM_append, hgroups]
    rfl

/-- What is printed after a host for its port. -/
def portText (port : Option Nat) : List Char :=
  match port with
  | some p => ':' :: Nat.toDigits 10 p
  | none => []

/-- The characters of an authority: the host, and the port behind its colon. -/
theorem toList_authority (host : Host) (port : Option Nat) :
    (WebUrl.authority host port).toList = host.text.toList ++ portText port := by
  unfold WebUrl.authority portText
  cases port with
  | none => exact (List.append_nil _).symm
  | some p =>
    have hcolon : ":".toList = [':'] := rfl
    have hdecimal : (Ascii.decimal p).toList = Nat.toDigits 10 p := String.toList_ofList
    dsimp only
    rw [String.toList_append, String.toList_append, List.append_assoc, hcolon, hdecimal]
    rfl

/-- Behind a host, a port is taken in, and the authority is complete. -/
theorem foldlM_portText (port : Option Nat) (bracketed : Bool) :
    ∃ seen, (portText port).foldlM Authority.step (hostSeen bracketed) = .ok seen ∧
      seen.complete := by
  cases port with
  | none => exact ⟨hostSeen bracketed, rfl, by cases bracketed <;> rfl⟩
  | some p =>
    have hdigits : ∀ c ∈ Nat.toDigits 10 p, Domain.IsPlain c ∧ isStray c = false := by
      intro c hc
      have halnum := Address.isAlphanumeric_of_mem_toDigits (by decide) (by decide) hc
      exact ⟨Domain.isPlain_of_isAlphanumeric halnum, not_isStray_of_isAlphanumeric halnum⟩
    have hcolon : (hostSeen bracketed).step ':' = .ok { hostSeen bracketed with colons := 1 } := rfl
    refine ⟨{ hostSeen bracketed with colons := 1 }, ?_, by cases bracketed <;> rfl⟩
    unfold portText
    dsimp only
    rw [List.foldlM_cons, hcolon]
    exact foldlM_plain hdigits rfl

/-- Printed hosts and ports have plain characters, colons and brackets. -/
theorem mem_printed {host : List Char} (h : PrintedHost host) (port : Option Nat) {c : Char}
    (hc : c ∈ host ++ portText port) : Domain.IsPlain c ∨ c ∈ [':', '[', ']'] := by
  rcases List.mem_append.mp hc with hc | hc
  · cases h with
    | name some plain => exact .inl (plain c hc)
    | @bracketed cs chars colons =>
      rcases List.mem_cons.mp hc with rfl | hc
      · exact .inr (by decide)
      rcases List.mem_append.mp hc with hc | hc
      · rcases chars c hc with hc | rfl
        · exact .inl (Domain.isPlain_of_isAlphanumeric hc)
        · exact .inr (by decide)
      · rw [List.mem_singleton.mp hc]
        exact .inr (by decide)
  · unfold portText at hc
    cases port with
    | none => cases hc
    | some p =>
      rcases List.mem_cons.mp hc with rfl | hc
      · exact .inr (by decide)
      · exact .inl (Domain.isPlain_of_isAlphanumeric
          (Address.isAlphanumeric_of_mem_toDigits (by decide) (by decide) hc))

/-- No port has a stray character. -/
theorem not_isStray_portText {port : Option Nat} {c : Char} (hc : c ∈ portText port) :
    isStray c = false := by
  unfold portText at hc
  cases port with
  | none => cases hc
  | some p =>
    rcases List.mem_cons.mp hc with rfl | hc
    · rfl
    · exact not_isStray_of_isAlphanumeric
        (Address.isAlphanumeric_of_mem_toDigits (by decide) (by decide) hc)

/-- Only names have stray characters. -/
theorem isPlain_of_stray {host : List Char} (h : PrintedHost host)
    (hs : ∃ c ∈ host, isStray c) : ∀ c ∈ host, Domain.IsPlain c := by
  cases h with
  | name some plain => exact plain
  | @bracketed cs chars colons =>
    obtain ⟨c, hc, hstray⟩ := hs
    have hnone : isStray c = false := by
      rcases List.mem_cons.mp hc with rfl | hc
      · rfl
      rcases List.mem_append.mp hc with hc | hc
      · rcases chars c hc with hc | rfl
        · exact not_isStray_of_isAlphanumeric hc
        · rfl
      · rw [List.mem_singleton.mp hc]
        rfl
    rw [hnone] at hstray
    cases hstray

/-! ## Hosts with ports -/

/-- How a server is named: by a printed host, with a port or without. -/
inductive PrintedAuthority : List Char → Prop
  /-- A host and what stands for a port. -/
  | hostAndPort {host : List Char} (printed : PrintedHost host) (port : Option Nat) :
      PrintedAuthority (host ++ portText port)

/-- A printed host with a port or without one is a printed authority. -/
theorem printedAuthority_of_authority {host : Host} (h : PrintedHost host.text.toList)
    (port : Option Nat) : PrintedAuthority (WebUrl.authority host port).toList := by
  rw [toList_authority]
  exact .hostAndPort h port

variable {cs : List Char}

/-- A printed authority is not empty. -/
theorem PrintedAuthority.isEmpty_eq_false (h : PrintedAuthority cs) : cs.isEmpty = false := by
  cases h with
  | hostAndPort printed port =>
    rw [List.isEmpty_eq_false_iff]
    exact List.append_ne_nil_of_left_ne_nil printed.ne_nil _

/-- Servers are named in plain characters, colons and brackets. -/
theorem PrintedAuthority.mem (h : PrintedAuthority cs) {c : Char} (hc : c ∈ cs) :
    Domain.IsPlain c ∨ c ∈ [':', '[', ']'] := by
  cases h with
  | hostAndPort printed port => exact mem_printed printed port hc

/-- The name of a server ends where a path begins. -/
theorem PrintedAuthority.span (h : PrintedAuthority cs) (rest : List Char) :
    (cs ++ '/' :: rest).span (!endsAuthority ·) = (cs, '/' :: rest) := by
  have hall : ∀ c ∈ cs, (!endsAuthority c) = true := by
    intro c hc
    rcases h.mem hc with hc | hc
    · have hinert := isInert_of_isPlain hc
      unfold isInert at hinert
      exact (Bool.and_eq_true_iff.mp hinert).2
    · have hothers : [':', '[', ']'].all fun c => !endsAuthority c := by decide
      exact List.all_eq_true.mp hothers c hc
  refine Text.span_append hall fun c hc => ?_
  cases hc
  rfl

/-- The name of a server can be an authority if it has no stray characters. -/
theorem takeAuthority_of_printed (h : PrintedAuthority cs) (rest : List Char)
    (hs : ∀ c ∈ cs, isStray c = false) :
    takeAuthority (cs ++ '/' :: rest) = .ok (cs, '/' :: rest) := by
  have hfold : ∃ seen, cs.foldlM Authority.step Authority.start = .ok seen ∧ seen.complete := by
    cases h with
    | hostAndPort printed port =>
      obtain ⟨bracketed, hhost⟩ :=
        foldlM_printed printed fun c hc => hs c (List.mem_append_left _ hc)
      rw [List.foldlM_append, hhost]
      exact foldlM_portText port bracketed
  obtain ⟨seen, hfold, hcomplete⟩ := hfold
  unfold takeAuthority
  rw [h.span rest]
  dsimp only
  rw [hfold]
  exact if_pos hcomplete

/-- With a stray character it cannot. -/
theorem takeAuthority_of_stray (h : PrintedAuthority cs) (rest : List Char)
    (hs : ∃ c ∈ cs, isStray c) :
    takeAuthority (cs ++ '/' :: rest) = .error .invalidCharacter := by
  have hfold : cs.foldlM Authority.step Authority.start = .error .invalidCharacter := by
    cases h with
    | @hostAndPort host printed port =>
      -- A port is a number, so it is the host that has the stray character.
      have hhost : ∃ c ∈ host, isStray c := by
        obtain ⟨c, hc, hstray⟩ := hs
        rcases List.mem_append.mp hc with hc | hc
        · exact ⟨c, hc, hstray⟩
        · rw [not_isStray_portText hc] at hstray
          cases hstray
      rw [List.foldlM_append, foldlM_stray (isPlain_of_stray printed hhost) hhost rfl]
      rfl
  unfold takeAuthority
  rw [h.span rest]
  dsimp only
  rw [hfold]
  rfl

end RequestTarget

end PagePreview
