import Mathlib.Data.List.Chain
import Mathlib.Data.List.TakeWhile
import PagePreview.Proofs.Words
import PagePreview.Rule.Template

/-!
# Templates part by part

A template is put together from texts that stand for themselves and from placeholders. Filled in, it
holds these texts as they are and the text of a group for each placeholder, as long as no part runs
into the next one. Every template can be put together so. It is filled in by one pass from left to
right, which takes a turn for each dollar sign. What a group holds is put out and never read, so it
may hold anything.
-/

namespace PagePreview.Template

/-! ## Parts -/

/-- A part of a template. -/
inductive Part where
  /-- A text that stands for itself. -/
  | literal (text : List Char)
  /-- A dollar sign and a run of digits. -/
  | placeholder (digits : List Char)

namespace Part

/-- The part as it is written. -/
def written : Part → List Char
  | literal text => text
  | placeholder digits => '$' :: digits

/-- What the part stands for. The digits of a placeholder denote a group, which may be missing, or
may have taken no part. -/
def meaning (groups : Groups) : Part → List Char
  | literal text => text
  | placeholder digits => (groups[Nat.ofDigitChars 10 digits 0]?.join.getD "").toList

/-- A text holds something, but no digit directly after a dollar sign; a placeholder has digits and
nothing else. -/
def Valid : Part → Prop
  | literal text => text ≠ [] ∧ text.IsChain fun c d => c = '$' → Ascii.isDigit d = false
  | placeholder digits => digits ≠ [] ∧ ∀ d ∈ digits, Ascii.isDigit d = true

/-- A digit after the part would be read with it. -/
def TakesDigit : Part → Prop
  | literal text => text.getLast? = some '$'
  | placeholder _ => True

/-- The part is a text that begins with a digit. -/
def BeginsWithDigit : Part → Prop
  | literal text => text.head?.any Ascii.isDigit
  | placeholder _ => False

/-- One part may stand directly before another. -/
def Apart (p q : Part) : Prop := p.TakesDigit → ¬q.BeginsWithDigit

instance : DecidablePred Valid
  | literal _ => inferInstanceAs (Decidable (_ ∧ _))
  | placeholder digits =>
    -- The digits are tested, not all characters.
    have : Decidable (∀ d ∈ digits, Ascii.isDigit d = true) := List.decidableBAll _ digits
    inferInstanceAs (Decidable (_ ∧ _))

instance : DecidablePred TakesDigit
  | literal _ => inferInstanceAs (Decidable (_ = _))
  | placeholder _ => inferInstanceAs (Decidable True)

instance : DecidablePred BeginsWithDigit
  | literal _ => inferInstanceAs (Decidable (_ = true))
  | placeholder _ => inferInstanceAs (Decidable False)

instance : DecidableRel Apart := fun _ _ => inferInstanceAs (Decidable (_ → _))

end Part

/-- Parts of which none runs into the next one. -/
structure WellWritten (parts : List Part) : Prop where
  /-- Every part is valid. -/
  valid : ∀ p ∈ parts, p.Valid
  /-- No text that begins with a digit comes directly after a part that would take it. -/
  apart : parts.IsChain Part.Apart

instance (parts : List Part) : Decidable (WellWritten parts) :=
  decidable_of_iff ((∀ p ∈ parts, p.Valid) ∧ parts.IsChain Part.Apart)
    ⟨fun h => ⟨h.1, h.2⟩, fun h => ⟨h.valid, h.apart⟩⟩

/-- What follows does not begin with a digit. -/
def EndsRun (rest : List Char) : Prop := ∀ d ∈ rest.head?, Ascii.isDigit d = false

/-- A run of digits ends at the end. -/
theorem endsRun_nil : EndsRun [] := nofun

/-- A run of digits ends where no digit follows. -/
theorem endsRun_cons {c : Char} {rest : List Char} :
    EndsRun (c :: rest) ↔ Ascii.isDigit c = false := by
  simp [EndsRun]

/-- A run of digits ends at a dollar sign. -/
theorem endsRun_dollar (rest : List Char) : EndsRun ('$' :: rest) := endsRun_cons.mpr rfl

/-- No parts are well written. -/
theorem wellWritten_nil : WellWritten [] := ⟨nofun, .nil⟩

/-- Parts are well written if the first is valid and does not run into the rest, which is well
written. -/
theorem wellWritten_cons {p : Part} {parts : List Part} :
    WellWritten (p :: parts) ↔
      p.Valid ∧ (p.TakesDigit → EndsRun (parts.flatMap Part.written)) ∧ WellWritten parts := by
  have hhead : ∀ q ∈ parts.head?, q.Valid →
      (EndsRun (parts.flatMap Part.written) ↔ ¬q.BeginsWithDigit) := by
    intro q hq hvalid
    obtain ⟨rest, rfl⟩ := List.head?_eq_some_iff.mp hq
    rw [List.flatMap_cons]
    cases q with
    | placeholder digits => exact ⟨fun _ => id, fun _ => endsRun_dollar _⟩
    | literal text =>
      obtain ⟨c, text, rfl⟩ := List.exists_cons_of_ne_nil hvalid.1
      simp [Part.written, Part.BeginsWithDigit, endsRun_cons]
  constructor
  · rintro ⟨hvalid, hapart⟩
    obtain ⟨hfirst, hrest⟩ := List.isChain_cons.mp hapart
    obtain ⟨hp, hparts⟩ := List.forall_mem_cons.mp hvalid
    refine ⟨hp, fun htakes => ?_, hparts, hrest⟩
    cases parts with
    | nil => exact endsRun_nil
    | cons q parts => exact (hhead q rfl (hparts q List.mem_cons_self)).mpr (hfirst q rfl htakes)
  · rintro ⟨hp, htakes, hparts, hrest⟩
    refine ⟨List.forall_mem_cons.mpr ⟨hp, hparts⟩, List.isChain_cons.mpr ⟨?_, hrest⟩⟩
    intro q hq hdigit
    exact (hhead q hq (hparts q (List.mem_of_mem_head? hq))).mp (htakes hdigit)

/-! ## Reading -/

/-- A number ends where no digit follows. -/
theorem scan_endsRun {rest : List Char} (h : EndsRun rest) (n : Nat) :
    scan (some n) rest = .group n :: scan none rest := by
  cases rest with
  | nil => rfl
  | cons c rest =>
    have hc := endsRun_cons.mp h
    by_cases hdollar : c = '$'
    · subst hdollar
      cases rest with
      | nil => rfl
      | cons d rest =>
        simp only [scan]
        split <;> rfl
    · simp [scan, hdollar, hc]

/-- A run of digits is read as long as it is. -/
theorem scan_digits {digits rest : List Char} (hd : ∀ d ∈ digits, Ascii.isDigit d = true)
    (hr : EndsRun rest) (n : Nat) :
    scan (some n) (digits ++ rest) = .group (Nat.ofDigitChars 10 digits n) :: scan none rest := by
  induction digits generalizing n with
  | nil => exact scan_endsRun hr n
  | cons d digits ih =>
    obtain ⟨hdigit, hdigits⟩ := List.forall_mem_cons.mp hd
    have hdollar : d ≠ '$' := by
      rintro rfl
      cases hdigit
    have hnext : scan (some n) (d :: (digits ++ rest)) =
        scan (some (10 * n + (d.toNat - 48))) (digits ++ rest) := by
      simp [scan, hdollar, hdigit, Nat.mul_comm]
    rw [List.cons_append, hnext, ih hdigits, Nat.ofDigitChars_cons]
    rfl

/-- A placeholder is read with all its digits. -/
theorem scan_placeholder {digits rest : List Char} (hne : digits ≠ [])
    (hd : ∀ d ∈ digits, Ascii.isDigit d = true) (hr : EndsRun rest) :
    scan none ('$' :: (digits ++ rest)) =
      .group (Nat.ofDigitChars 10 digits 0) :: scan none rest := by
  cases digits with
  | nil => exact absurd rfl hne
  | cons d digits =>
    obtain ⟨hdigit, hdigits⟩ := List.forall_mem_cons.mp hd
    have hfirst : scan none ('$' :: d :: (digits ++ rest)) =
        scan (some (d.toNat - 48)) (digits ++ rest) := by
      simp [scan, hdigit]
    rw [List.cons_append, hfirst, scan_digits hdigits hr, Nat.ofDigitChars_cons]
    simp

/-- A character stands for itself, unless it is a dollar sign and a digit follows. -/
theorem scan_plain {c : Char} {rest : List Char} (h : c = '$' → EndsRun rest) :
    scan none (c :: rest) = .plain c :: scan none rest := by
  by_cases hdollar : c = '$'
  · subst hdollar
    cases rest with
    | nil => rfl
    | cons d rest => simp [scan, endsRun_cons.mp (h rfl)]
  · simp [scan, hdollar]

/-- A text is read as it is, if no dollar sign in it stands before a digit. -/
theorem scan_literal {text : List Char}
    (ht : text.IsChain fun c d => c = '$' → Ascii.isDigit d = false) {rest : List Char}
    (hr : text.getLast? = some '$' → EndsRun rest) :
    scan none (text ++ rest) = text.map .plain ++ scan none rest := by
  induction text with
  | nil => rfl
  | cons c text ih =>
    obtain ⟨hfirst, htext⟩ := List.isChain_cons.mp ht
    have hends : c = '$' → EndsRun (text ++ rest) := by
      rintro rfl
      cases text with
      | nil => exact hr rfl
      | cons d text => exact endsRun_cons.mpr (hfirst d rfl rfl)
    have hlast : text.getLast? = some '$' → EndsRun rest := by
      intro hlast
      apply hr
      rw [List.getLast?_cons, hlast]
      rfl
    rw [List.cons_append, scan_plain hends, ih htext hlast]
    rfl

/-- The pieces that a part is read as. -/
def Part.pieces : Part → List Piece
  | literal text => text.map .plain
  | placeholder digits => [.group (Nat.ofDigitChars 10 digits 0)]

/-- Parts that do not run into one another are read one by one. -/
theorem pieces_written {parts : List Part} (h : WellWritten parts) :
    pieces (parts.flatMap Part.written) = parts.flatMap Part.pieces := by
  unfold pieces
  induction parts with
  | nil => rfl
  | cons p parts ih =>
    obtain ⟨hp, htakes, hparts⟩ := wellWritten_cons.mp h
    rw [List.flatMap_cons, List.flatMap_cons, ← ih hparts]
    cases p with
    | literal text => exact scan_literal hp.2 htakes
    | placeholder digits => exact scan_placeholder hp.1 hp.2 (htakes trivial)

/-! ## Filling in -/

/-- What a piece is filled in with. -/
def Piece.filled (text : Nat → List Char) : Piece → List Char
  | .plain c => [c]
  | .group n => if n < wordLimit then text n else []

/-- A template is filled piece by piece. -/
theorem fill_eq (template : String) (text : Nat → List Char) :
    fill template text =
      String.ofList ((pieces template.toList).flatMap (Piece.filled text)) := by
  unfold fill
  congr 2

/-- Pieces of plain text stand as they are. -/
theorem flatMap_filled_plain (cs : List Char) (text : Nat → List Char) :
    (cs.map Piece.plain).flatMap (Piece.filled text) = cs := by
  induction cs with
  | nil => rfl
  | cons c cs ih =>
    rw [List.map_cons, List.flatMap_cons, ih]
    rfl

/-- What a piece stands for. -/
def Piece.meaning (groups : Groups) : Piece → List Char
  | .plain c => [c]
  | .group n => if n < wordLimit then groupText groups n else []

/-- A template is expanded piece by piece. -/
theorem expand_eq (template : String) (groups : Groups) :
    expand template groups =
      String.ofList ((pieces template.toList).flatMap (Piece.meaning groups)) :=
  fill_eq template (groupText groups)

/-- Pieces of plain text mean themselves. -/
theorem flatMap_plain (groups : Groups) (text : List Char) :
    (text.map Piece.plain).flatMap (Piece.meaning groups) = text :=
  flatMap_filled_plain text (groupText groups)

/-- The text of a group that did not take part is empty, and so is that of no group. -/
theorem toList_groupText (groups : Groups) (n : Nat) :
    groupText groups n = (groups[n]?.join.getD "").toList := by
  unfold groupText
  cases groups[n]? with
  | none => rfl
  | some group =>
    cases group with
    | none => rfl
    | some text => rfl

/-- A number that is no machine word denotes no group. -/
theorem Part.flatMap_pieces (groups : Groups) (p : Part) :
    p.pieces.flatMap (Piece.meaning groups) = p.meaning (groups.take wordLimit) := by
  cases p with
  | literal text => exact flatMap_plain groups text
  | placeholder digits =>
    simp only [Part.pieces, Part.meaning, List.flatMap_cons, List.flatMap_nil, List.append_nil,
      Piece.meaning, toList_groupText, List.getElem?_take]
    split <;> rfl

/-! ## One pass -/

/-- How far the pass has come. -/
structure Progress where
  /-- What has been put out. -/
  out : List Char
  /-- What has not been read yet. -/
  rest : List Char

/-- What is put out for a dollar sign with these digits after it: the sign itself if there are none,
and the text of the group otherwise. -/
def Progress.substitute (groups : Groups) : List Char → List Char
  | [] => ['$']
  | d :: digits => Piece.meaning groups (.group (Nat.ofDigitChars 10 (d :: digits) 0))

/-- One turn of the pass: it copies what stands before the next dollar sign and reads all digits
after the sign. There is no turn where no dollar sign is left. -/
def Progress.turn? (groups : Groups) (p : Progress) : Option Progress :=
  match p.rest.dropWhile (· != '$') with
  | [] => none
  | _ :: after => some
    { out := p.out ++ p.rest.takeWhile (· != '$') ++
        substitute groups (after.takeWhile Ascii.isDigit)
      rest := after.dropWhile Ascii.isDigit }

/-- The pass comes to an end after some turns, with a result. -/
inductive Finishes (groups : Groups) : Progress → Nat → List Char → Prop
  /-- There is no turn left, so the rest is copied. -/
  | done {p : Progress} (h : p.turn? groups = none) : Finishes groups p 0 (p.out ++ p.rest)
  /-- It takes a turn and goes on. -/
  | turn {p q : Progress} {n : Nat} {result : List Char} (h : p.turn? groups = some q)
      (later : Finishes groups q n result) : Finishes groups p (n + 1) result

/-- The turns over a template end in one way only. -/
theorem Finishes.unique {groups : Groups} {p : Progress} {n n' : Nat} {result result' : List Char}
    (h : Finishes groups p n result) (h' : Finishes groups p n' result') :
    n' = n ∧ result' = result := by
  induction h generalizing n' with
  | done hnone =>
    cases h' with
    | done => exact ⟨rfl, rfl⟩
    | turn hsome => rw [hnone] at hsome; cases hsome
  | turn hsome later ih =>
    cases h' with
    | done hnone => rw [hsome] at hnone; cases hnone
    | turn hsome' later' =>
      cases hsome.symm.trans hsome'
      obtain ⟨rfl, rfl⟩ := ih later'
      exact ⟨rfl, rfl⟩

/-- A text as the pass reads it, turn by turn. -/
inductive Read : List Char → Prop
  /-- No dollar sign is left. -/
  | last {text : List Char} (h : '$' ∉ text) : Read text
  /-- A text, a dollar sign and all digits after it, and what comes then. -/
  | turn {before digits rest : List Char} (hb : '$' ∉ before)
      (hd : ∀ d ∈ digits, Ascii.isDigit d = true) (hr : EndsRun rest) (later : Read rest) :
      Read (before ++ '$' :: (digits ++ rest))

/-- Every text is read to its end. -/
theorem read_all (text : List Char) : Read text := by
  induction hlength : text.length using Nat.strong_induction_on generalizing text with
  | _ n ih =>
    by_cases hdollar : '$' ∈ text
    · obtain ⟨before, after, rfl, hb⟩ := List.eq_append_cons_of_mem hdollar
      have hd : ∀ d ∈ after.takeWhile Ascii.isDigit, Ascii.isDigit d = true :=
        fun d hd => List.mem_takeWhile_imp hd
      have hr : EndsRun (after.dropWhile Ascii.isDigit) := fun d =>
        Text.eq_false_of_mem_head?_dropWhile
      have hshort : (after.dropWhile Ascii.isDigit).length < n := by
        have hdrop := (List.dropWhile_sublist Ascii.isDigit (l := after)).length_le
        simp only [List.length_append, List.length_cons] at hlength
        omega
      have hread := Read.turn hb hd hr (ih _ hshort _ rfl)
      rwa [List.takeWhile_append_dropWhile] at hread
    · exact .last hdollar

/-- A text without a dollar sign has other characters only. -/
theorem ne_dollar_of_notMem {text : List Char} (h : '$' ∉ text) :
    ∀ c ∈ text, (c != '$') = true := by
  rintro c hc
  rw [bne_iff_ne]
  rintro rfl
  exact h hc

/-- Without a dollar sign there is no further turn. -/
theorem turn?_eq_none {p : Progress} (h : '$' ∉ p.rest) (groups : Groups) :
    p.turn? groups = none := by
  have hdrop : p.rest.dropWhile (· != '$') = [] :=
    List.dropWhile_eq_nil_iff.mpr (ne_dollar_of_notMem h)
  simp [Progress.turn?, hdrop]

/-- A turn substitutes the first placeholder. -/
theorem turn?_eq_some {before digits rest : List Char} (hb : '$' ∉ before)
    (hd : ∀ d ∈ digits, Ascii.isDigit d = true) (hr : EndsRun rest) (groups : Groups)
    (out : List Char) :
    Progress.turn? groups ⟨out, before ++ '$' :: (digits ++ rest)⟩ =
      some ⟨out ++ before ++ Progress.substitute groups digits, rest⟩ := by
  have hsign : ∀ c ∈ ('$' :: (digits ++ rest)).head?, (c != '$') = false := by simp
  obtain ⟨htake, hdrop⟩ := Text.takeWhile_dropWhile_append (ne_dollar_of_notMem hb) hsign
  obtain ⟨hdigits, hrest⟩ := Text.takeWhile_dropWhile_append hd hr
  simp only [Progress.turn?, htake, hdrop, hdigits, hrest]

/-! ## Every template -/

/-- What stands before a dollar sign without digits holds no placeholder, nor does the sign. -/
theorem isChain_append_dollar {before : List Char} (hb : '$' ∉ before) :
    (before ++ ['$']).IsChain fun c d => c = '$' → Ascii.isDigit d = false := by
  induction before with
  | nil => exact .singleton _
  | cons c before ih =>
    rw [List.mem_cons, not_or] at hb
    rw [List.cons_append, List.isChain_cons]
    exact ⟨fun d _ hdollar => absurd hdollar.symm hb.1, ih hb.2⟩

/-- In a text without a dollar sign none stands before a digit. -/
theorem isChain_of_notMem {text : List Char} (h : '$' ∉ text) :
    text.IsChain fun c d => c = '$' → Ascii.isDigit d = false :=
  (isChain_append_dollar h).left_of_append

/-- A text without a dollar sign is one part, unless it is empty. -/
theorem exists_parts_append {before : List Char} (hb : '$' ∉ before) {parts : List Part}
    (h : WellWritten parts) :
    ∃ all, WellWritten all ∧
      all.flatMap Part.written = before ++ parts.flatMap Part.written := by
  cases before with
  | nil => exact ⟨parts, h, rfl⟩
  | cons c before =>
    have htakes : (Part.literal (c :: before)).TakesDigit →
        EndsRun (parts.flatMap Part.written) :=
      fun hlast => absurd (List.mem_of_getLast? hlast) hb
    exact ⟨.literal (c :: before) :: parts,
      wellWritten_cons.mpr ⟨⟨List.cons_ne_nil _ _, isChain_of_notMem hb⟩, htakes, h⟩, rfl⟩

/-- Every template is put together from parts that do not run into one another. -/
theorem exists_parts (text : List Char) :
    ∃ parts, WellWritten parts ∧ parts.flatMap Part.written = text := by
  induction read_all text with
  | @last text h =>
    obtain ⟨parts, hparts, hwritten⟩ := exists_parts_append h wellWritten_nil
    exact ⟨parts, hparts, hwritten.trans (List.append_nil text)⟩
  | @turn before digits rest hb hd hr later ih =>
    obtain ⟨parts, hparts, rfl⟩ := ih
    by_cases hdigits : digits = []
    · -- The sign stands for itself, so it is the end of the text before it.
      subst hdigits
      have hvalid : (Part.literal (before ++ ['$'])).Valid :=
        ⟨by simp, isChain_append_dollar hb⟩
      refine ⟨.literal (before ++ ['$']) :: parts,
        wellWritten_cons.mpr ⟨hvalid, fun _ => hr, hparts⟩, ?_⟩
      simp [Part.written]
    · have hplaceholder : WellWritten (.placeholder digits :: parts) :=
        wellWritten_cons.mpr ⟨⟨hdigits, hd⟩, fun _ => hr, hparts⟩
      obtain ⟨all, hall, hwritten⟩ := exists_parts_append hb hplaceholder
      exact ⟨all, hall, hwritten⟩

/-- What the pass puts out for a dollar sign is what is read there. -/
theorem flatMap_pieces_turn {before digits rest : List Char} (hb : '$' ∉ before)
    (hd : ∀ d ∈ digits, Ascii.isDigit d = true) (hr : EndsRun rest) (groups : Groups) :
    (pieces (before ++ '$' :: (digits ++ rest))).flatMap (Piece.meaning groups) =
      before ++ Progress.substitute groups digits ++
        (pieces rest).flatMap (Piece.meaning groups) := by
  have hbefore : ∀ after, scan none (before ++ after) =
      before.map .plain ++ scan none after := fun after =>
    scan_literal (isChain_of_notMem hb) fun hlast => absurd (List.mem_of_getLast? hlast) hb
  unfold pieces
  rw [hbefore, List.flatMap_append, flatMap_plain, List.append_assoc]
  congr 1
  cases digits with
  | nil =>
    rw [List.nil_append, scan_plain fun _ => hr]
    rfl
  | cons d digits =>
    rw [scan_placeholder (List.cons_ne_nil d digits) hd hr]
    rfl

/-- The pass ends, and it takes one turn for each dollar sign. -/
theorem finishes (groups : Groups) (text out : List Char) :
    Finishes groups ⟨out, text⟩ (text.count '$')
      (out ++ (pieces text).flatMap (Piece.meaning groups)) := by
  induction read_all text generalizing out with
  | @last text h =>
    have hpieces : pieces text = text.map .plain := by
      have hscan := scan_literal (isChain_of_notMem h) fun _ => endsRun_nil
      simpa [pieces, scan] using hscan
    rw [List.count_eq_zero.mpr h, hpieces, flatMap_plain]
    exact .done (turn?_eq_none h groups)
  | @turn before digits rest hb hd hr later ih =>
    have hdigits : '$' ∉ digits := by
      intro hmem
      cases hd '$' hmem
    have hcount : (before ++ '$' :: (digits ++ rest)).count '$' = rest.count '$' + 1 := by
      simp [List.count_append, List.count_eq_zero.mpr hb, List.count_eq_zero.mpr hdigits]
    rw [hcount, flatMap_pieces_turn hb hd hr, ← List.append_assoc, ← List.append_assoc]
    exact .turn (turn?_eq_some hb hd hr groups out) (ih _)

/-- A template that is put together from parts which do not run into one another is filled in part
by part, and every template is put together so. A number denotes a group if it is a machine word, so
every group can be had unless there are more groups than words. The template is filled in by a pass
that ends, after as many turns as the template has dollar signs, whatever the groups hold. -/
theorem expand_part_by_part (groups : Groups) :
    (∀ parts, WellWritten parts →
      expand (String.ofList (parts.flatMap Part.written)) groups =
        String.ofList (parts.flatMap (Part.meaning (groups.take wordLimit)))) ∧
    (groups.length ≤ wordLimit → ∀ parts, WellWritten parts →
      expand (String.ofList (parts.flatMap Part.written)) groups =
        String.ofList (parts.flatMap (Part.meaning groups))) ∧
    (∀ template : String, ∃ parts, WellWritten parts ∧
      template = String.ofList (parts.flatMap Part.written)) ∧
    (∀ (template : String) (turns : Nat) (result : List Char),
      Finishes groups ⟨[], template.toList⟩ turns result ↔
        turns = template.toList.count '$' ∧ String.ofList result = expand template groups) := by
  have hparts : ∀ parts, WellWritten parts →
      expand (String.ofList (parts.flatMap Part.written)) groups =
        String.ofList (parts.flatMap (Part.meaning (groups.take wordLimit))) := by
    intro parts h
    rw [expand_eq, String.toList_ofList, pieces_written h, List.flatMap_assoc]
    simp only [Part.flatMap_pieces]
  refine ⟨hparts, fun hg => ?_, fun template => ?_, fun template turns result => ?_⟩
  · rw [List.take_of_length_le hg] at hparts
    exact hparts
  · obtain ⟨parts, hparts, hwritten⟩ := exists_parts template.toList
    exact ⟨parts, hparts, by rw [hwritten, String.ofList_toList]⟩
  · have hpass := finishes groups template.toList []
    rw [List.nil_append] at hpass
    rw [expand_eq]
    constructor
    · intro h
      obtain ⟨rfl, rfl⟩ := hpass.unique h
      exact ⟨rfl, rfl⟩
    · rintro ⟨rfl, hresult⟩
      rw [String.ofList_injective hresult]
      exact hpass

/-- Parts with a dollar sign before another one, leading zeros, a group that took no part, and a
number that is no machine word. -/
def mixedParts : List Part :=
  [.literal "/x$".toList, .placeholder "02".toList, .literal "y$$".toList,
    .placeholder "1".toList, .placeholder "18446744073709551616".toList, .literal "/$z".toList]

/-- What a group holds is put out as it is, though it looks like a placeholder. -/
theorem expand_part_by_part_mixed :
    WellWritten mixedParts ∧ [some "a$1", none, some "$0"].length ≤ wordLimit ∧
    String.ofList (mixedParts.flatMap Part.written) = "/x$$02y$$$1$18446744073709551616/$z" ∧
    expand "/x$$02y$$$1$18446744073709551616/$z" [some "a$1", none, some "$0"] =
      "/x$$0y$$/$z" := by
  have hparts : WellWritten mixedParts := by decide
  have hlength : [some "a$1", none, some "$0"].length ≤ wordLimit := by decide
  have hwritten : String.ofList (mixedParts.flatMap Part.written) =
      "/x$$02y$$$1$18446744073709551616/$z" := by decide
  have hfilled := (expand_part_by_part [some "a$1", none, some "$0"]).2.1 hlength mixedParts hparts
  rw [hwritten] at hfilled
  exact ⟨hparts, hlength, hwritten, hfilled.trans (by decide)⟩

end PagePreview.Template
