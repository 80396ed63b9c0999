import PagePreview.Pattern.Program
import PagePreview.Proofs.CaseBlindSets

/-!
# Patterns that do not tell the cases of a letter apart

A pattern ignores case from its start until one of its flags says otherwise. If none does, every
set in its meaning is blind to case. The functions that build meanings only take sets apart and
join them, and compiling only copies them, so all sets of the program are blind as well.
-/

namespace PagePreview.Pattern

/-! ## Joining blind sets -/

/-- Sets that are blind to case make up one that is. -/
theorem CharSet.caseBlind_flatMap {α : Type} {f : α → CharSet} {xs : List α}
    (h : ∀ x ∈ xs, (f x).CaseBlind) : CharSet.CaseBlind (xs.flatMap f) := by
  rw [caseBlind_iff]
  intro i hi
  have hmem : ∀ n, Unicode.Intervals.contains (xs.flatMap f) n = true ↔
      ∃ x ∈ xs, Unicode.Intervals.contains (f x) n = true := by
    intro n
    simp [Unicode.Intervals.contains]
  rw [hmem, hmem]
  exact exists_congr fun x => and_congr_right fun hx => caseBlind_iff.mp (h x hx) i hi

/-- Every member of the result comes from a member of the list. -/
theorem exists_of_mem_mapM {α β : Type} {f : α → Option β} {xs : List α} {ys : List β}
    (h : xs.mapM f = some ys) {y : β} (hy : y ∈ ys) : ∃ x ∈ xs, f x = some y := by
  induction xs generalizing ys with
  | nil =>
    cases h
    cases hy
  | cons x xs ih =>
    rw [List.mapM_cons] at h
    obtain ⟨z, hz, h⟩ := Option.bind_eq_some_iff.mp h
    obtain ⟨zs, hzs, h⟩ := Option.bind_eq_some_iff.mp h
    cases h
    rcases List.mem_cons.mp hy with rfl | hy
    · exact ⟨x, List.mem_cons_self, hz⟩
    · obtain ⟨w, hw, hfw⟩ := ih hzs hy
      exact ⟨w, List.mem_cons_of_mem _ hw, hfw⟩

namespace Node

/-- Every set of the pattern is blind to case, and so is the set of each character of its texts. -/
inductive CaseBlind : Node → Prop where
  /-- The empty text. -/
  | empty : CaseBlind .empty
  /-- A text without ASCII letters. -/
  | literal {text : List Char} (h : ∀ c ∈ text, (CharSet.single c).CaseBlind) :
    CaseBlind (.literal text)
  /-- One character of a blind set. -/
  | set {s : CharSet} (h : s.CaseBlind) : CaseBlind (.set s)
  /-- A condition on the position. -/
  | look (l : Look) : CaseBlind (.look l)
  /-- A repetition of a blind pattern. -/
  | repetition (min : Nat) (max : Option Nat) (greedy : Bool) {sub : Node} (h : CaseBlind sub) :
    CaseBlind (.repetition min max greedy sub)
  /-- A capture of a blind pattern. -/
  | capture (index : Nat) {sub : Node} (h : CaseBlind sub) : CaseBlind (.capture index sub)
  /-- Blind patterns one after another. -/
  | concat {items : List Node} (h : ∀ n ∈ items, CaseBlind n) : CaseBlind (.concat items)
  /-- The first of several blind patterns. -/
  | choice {items : List Node} (h : ∀ n ∈ items, CaseBlind n) : CaseBlind (.choice items)

/-! ## Building -/

variable {items : List Node} {n : Node}

/-- The pattern of a blind set is blind. -/
theorem caseBlind_ofSet {s : CharSet} (h : s.CaseBlind) : (ofSet s).CaseBlind := by
  fun_cases ofSet s with
  | case1 a =>
    refine .literal fun c hc => ?_
    obtain rfl := List.mem_singleton.mp hc
    by_cases hvalid : a.isValidChar
    · have hpoint : (Char.ofNat a).toNat = a := Utf8.toNat_val_ofNat hvalid
      unfold CharSet.single
      rwa [hpoint]
    · have hzero : Char.ofNat a = Char.ofNat 0 := by
        unfold Char.ofNat
        rw [dif_neg hvalid]
        rfl
      rw [hzero]
      decide
  | case2 => exact .set h
  | case3 => exact .set h

/-- A repetition of a blind pattern is blind. -/
theorem caseBlind_ofRepetition (min : Nat) (max : Option Nat) (greedy : Bool) (h : n.CaseBlind) :
    (ofRepetition min max greedy n).CaseBlind := by
  have hcases : ∀ (min : Nat) (max : Option Nat),
      (if min = 0 ∧ max = some 0 then Node.empty
        else if min = 1 ∧ max = some 1 then n
        else .repetition min max greedy n).CaseBlind := by
    intro min max
    split
    · exact .empty
    · split
      · exact h
      · exact .repetition min max greedy h
  exact hcases _ _

/-- Joining the literals that stand side by side leaves the patterns blind. -/
theorem caseBlind_joinLiterals (h : ∀ n ∈ items, n.CaseBlind) :
    ∀ n ∈ joinLiterals items, n.CaseBlind := by
  induction items using joinLiterals.induct with
  | case1 => exact h
  | case2 a rest b others hjoin ih =>
    obtain ⟨ha, hrest⟩ := List.forall_mem_cons.mp h
    rw [hjoin] at ih
    obtain ⟨hb, hothers⟩ := List.forall_mem_cons.mp (ih hrest)
    simp only [joinLiterals, hjoin]
    refine List.forall_mem_cons.mpr ⟨?_, hothers⟩
    cases ha with
    | literal ha =>
      cases hb with
      | literal hb => exact .literal (List.forall_mem_append.mpr ⟨ha, hb⟩)
  | case3 a rest hno ih =>
    obtain ⟨ha, hrest⟩ := List.forall_mem_cons.mp h
    unfold joinLiterals
    split
    · exact absurd ‹_› (hno _ _)
    · exact List.forall_mem_cons.mpr ⟨ha, ih hrest⟩
  | case4 a rest hother ih =>
    obtain ⟨ha, hrest⟩ := List.forall_mem_cons.mp h
    rw [joinLiterals.eq_3 _ _ hother]
    exact List.forall_mem_cons.mpr ⟨ha, ih hrest⟩

/-- The items of nested sequences are blind to case, if the sequences are. -/
theorem caseBlind_flatConcat (h : ∀ n ∈ items, n.CaseBlind) :
    ∀ n ∈ items.flatMap fun
      | .concat sub => sub
      | .empty => []
      | a => [a], n.CaseBlind := by
  intro n hn
  obtain ⟨m, hm, hn⟩ := List.mem_flatMap.mp hn
  have hm := h m hm
  split at hn
  · cases hm with
    | concat hsub => exact hsub n hn
  · cases hn
  · obtain rfl := List.mem_singleton.mp hn
    exact hm

/-- A sequence of blind patterns is blind. -/
theorem caseBlind_ofConcat (h : ∀ n ∈ items, n.CaseBlind) : (ofConcat items).CaseBlind := by
  have hblind := caseBlind_joinLiterals (caseBlind_flatConcat h)
  fun_cases ofConcat items with
  | case1 => exact .empty
  | case2 flat n heq => exact hblind n (heq ▸ List.mem_singleton_self n)
  | case3 => exact .concat hblind

/-- The items of nested choices are blind to case, if the choices are. -/
theorem caseBlind_flatChoice (h : ∀ n ∈ items, n.CaseBlind) :
    ∀ n ∈ items.flatMap fun
      | .choice sub => sub
      | a => [a], n.CaseBlind := by
  intro n hn
  obtain ⟨m, hm, hn⟩ := List.mem_flatMap.mp hn
  have hm := h m hm
  split at hn
  · cases hm with
    | choice hsub => exact hsub n hn
  · obtain rfl := List.mem_singleton.mp hn
    exact hm

/-- A choice between blind patterns is blind, also where it becomes a set. -/
theorem caseBlind_choiceOf (h : ∀ n ∈ items, n.CaseBlind) : (choiceOf items).CaseBlind := by
  have hblind := caseBlind_flatChoice h
  fun_cases choiceOf items with
  | case1 => exact .set (by decide)
  | case2 flat n heq =>
    have hmem : n ∈ flat := heq ▸ List.mem_singleton_self n
    exact hblind n hmem
  | case3 flat cs _ _ hcs =>
    refine caseBlind_ofSet (CharSet.caseBlind_ofIntervals_iff.mpr ?_)
    refine CharSet.caseBlind_flatMap fun c hc => ?_
    obtain ⟨m, hm, hchar⟩ := exists_of_mem_mapM hcs hc
    unfold character? at hchar
    split at hchar
    · cases hchar
      cases hblind _ hm with
      | literal hc => exact hc _ List.mem_cons_self
    · cases hchar
  | case4 flat sets _ _ hsets =>
    refine caseBlind_ofSet (CharSet.caseBlind_ofIntervals_iff.mpr ?_)
    refine CharSet.caseBlind_flatMap fun s hs => ?_
    obtain ⟨m, hm, hset⟩ := exists_of_mem_mapM hsets hs
    unfold members? at hset
    split at hset
    · cases hset
      cases hblind _ hm with
      | set hs => exact hs
    · cases hset
  | case5 => exact .choice hblind

/-- What two sequences have in common stands in the first. -/
theorem mem_of_mem_commonFront {as bs : List Node} (h : n ∈ commonFront as bs) : n ∈ as := by
  induction as generalizing bs with
  | nil => cases bs <;> cases h
  | cons a as ih =>
    cases bs with
    | nil => cases h
    | cons b bs =>
      unfold commonFront at h
      split at h
      · rcases List.mem_cons.mp h with rfl | h
        · exact List.mem_cons_self
        · exact List.mem_cons_of_mem _ (ih h)
      · cases h

/-- What several sequences have in common stands in the first. -/
theorem mem_of_mem_foldl_commonFront {first : List Node} {others : List (List Node)}
    (h : n ∈ others.foldl commonFront first) : n ∈ first := by
  induction others generalizing first with
  | nil => exact h
  | cons other others ih => exact mem_of_mem_commonFront (ih h)

/-- A choice is blind, also where the common front comes before it. -/
theorem caseBlind_ofChoice (h : ∀ n ∈ items, n.CaseBlind) : (ofChoice items).CaseBlind := by
  have hchoice := caseBlind_choiceOf h
  fun_cases ofChoice items with
  | case1 flat hflat => exact hflat ▸ hchoice
  | case2 flat hflat first others hlists =>
    rw [hflat] at hchoice
    have hitems : ∀ items ∈ first :: others, ∀ n ∈ items, n.CaseBlind := by
      intro items hmem
      obtain ⟨m, hm, hitems⟩ := exists_of_mem_mapM hlists hmem
      unfold items? at hitems
      split at hitems
      · cases hitems
        cases hchoice with
        | choice hblind =>
          cases hblind _ hm with
          | concat hsub => exact hsub
      · cases hitems
    refine caseBlind_ofConcat (List.forall_mem_append.mpr ⟨fun n hn => ?_, ?_⟩)
    · exact hitems first List.mem_cons_self n (mem_of_mem_foldl_commonFront hn)
    · refine List.forall_mem_singleton.mpr (caseBlind_choiceOf fun n hn => ?_)
      obtain ⟨items, hmem, rfl⟩ := List.mem_map.mp hn
      exact caseBlind_ofConcat fun n hn => hitems items hmem n (List.mem_of_mem_drop hn)
  | case3 flat hflat => exact hflat ▸ hchoice
  | case4 => exact hchoice

end Node

/-! ## Flags and trees -/

mutual

/-- All settings in the flag groups of a tree. -/
def Ast.settings : Ast → List Setting
  | .flags settings => settings
  | .repetition _ _ _ sub => sub.settings
  | .capture _ sub => sub.settings
  | .group settings sub => settings ++ sub.settings
  | .concat items => Ast.settingsOfAll items
  | .choice items => Ast.settingsOfAll items
  | _ => []

/-- All settings in several trees. -/
def Ast.settingsOfAll : List Ast → List Setting
  | [] => []
  | a :: rest => a.settings ++ Ast.settingsOfAll rest

end

/-- The setting that makes case count. -/
def Setting.heedCase : Setting := ⟨'i', false⟩

namespace Flags

variable {f g : Flags} {n : Node}

/-- Settings that do not turn it off leave the flag for case on. -/
theorem ignoreCase_applyAll (hf : f.ignoreCase = true) {settings : List Setting}
    (h : Setting.heedCase ∉ settings) : (f.applyAll settings).ignoreCase = true := by
  unfold applyAll
  induction settings generalizing f with
  | nil => exact hf
  | cons s rest ih =>
    obtain ⟨hs, hrest⟩ := not_or.mp (mt List.mem_cons.mpr h)
    refine ih ?_ hrest
    fun_cases apply f s with
    | case1 hletter =>
      cases hvalue : s.value with
      | false => exact absurd (by rw [Setting.heedCase, ← hletter, ← hvalue]) hs
      | true => rfl
    | _ => exact hf

/-- A character is blind to case where case is ignored. -/
theorem caseBlind_of_literal? (hf : f.ignoreCase = true) {l : Literal}
    (h : f.literal? l = some n) : n.CaseBlind := by
  unfold literal? at h
  split at h
  · cases h
  · cases h
    exact Node.caseBlind_ofSet (caseBlind_fold hf _).1

/-- The dot is blind to case under any flags. -/
theorem caseBlind_of_dot? (h : f.dot? = some n) : n.CaseBlind := by
  unfold dot? at h
  split at h
  · cases h
  · repeat' split at h
    all_goals
      cases h
      exact .set (by decide)

end Flags

mutual

/-- A tree that never makes case count has a meaning that is blind to case, and case is still
ignored after it. -/
theorem Ast.caseBlind_of_meaning? {f g : Flags} {n : Node} (hf : f.ignoreCase = true) :
    ∀ ast : Ast, Setting.heedCase ∉ ast.settings → ast.meaning? f = some (n, g) →
      n.CaseBlind ∧ g.ignoreCase = true
  | .empty, _, h => by
    cases h
    exact ⟨.empty, hf⟩
  | .flags settings, hs, h => by
    cases h
    exact ⟨.empty, Flags.ignoreCase_applyAll hf hs⟩
  | .literal l, _, h => by
    obtain ⟨m, hm, heq⟩ := Option.map_eq_some_iff.mp h
    cases heq
    exact ⟨Flags.caseBlind_of_literal? hf hm, hf⟩
  | .dot, _, h => by
    obtain ⟨m, hm, heq⟩ := Option.map_eq_some_iff.mp h
    cases heq
    exact ⟨Flags.caseBlind_of_dot? hm, hf⟩
  | .anchor a, _, h => by
    cases h
    exact ⟨.look _, hf⟩
  | .property negated query, _, h => by
    obtain ⟨s, hs, heq⟩ := Option.map_eq_some_iff.mp h
    cases heq
    exact ⟨Node.caseBlind_ofSet (Flags.caseBlind_of_property? hf hs), hf⟩
  | .perl negated cls, _, h => by
    obtain ⟨s, hs, heq⟩ := Option.map_eq_some_iff.mp h
    cases heq
    exact ⟨Node.caseBlind_ofSet (Flags.caseBlind_of_perl? hs), hf⟩
  | .bracket negated body, _, h => by
    obtain ⟨s, hs, heq⟩ := Option.map_eq_some_iff.mp h
    cases heq
    obtain ⟨t, -, hclose⟩ := Option.bind_eq_some_iff.mp hs
    exact ⟨Node.caseBlind_ofSet (Flags.caseBlind_of_close? hf hclose), hf⟩
  | .repetition min max greedy sub, hs, h => by
    obtain ⟨⟨m, f'⟩, hm, heq⟩ := Option.bind_eq_some_iff.mp h
    cases heq
    obtain ⟨hblind, hg⟩ := Ast.caseBlind_of_meaning? hf sub hs hm
    exact ⟨Node.caseBlind_ofRepetition _ _ _ hblind, hg⟩
  | .capture index sub, hs, h => by
    obtain ⟨⟨m, f'⟩, hm, heq⟩ := Option.bind_eq_some_iff.mp h
    cases heq
    exact ⟨.capture index (Ast.caseBlind_of_meaning? hf sub hs hm).1, hf⟩
  | .group settings sub, hs, h => by
    obtain ⟨⟨m, f'⟩, hm, heq⟩ := Option.bind_eq_some_iff.mp h
    cases heq
    obtain ⟨hsettings, hsub⟩ := not_or.mp (mt List.mem_append.mpr hs)
    have hinner := Flags.ignoreCase_applyAll hf hsettings
    exact ⟨(Ast.caseBlind_of_meaning? hinner sub hsub hm).1, hf⟩
  | .concat items, hs, h => by
    obtain ⟨⟨ns, f'⟩, hns, heq⟩ := Option.bind_eq_some_iff.mp h
    cases heq
    obtain ⟨hblind, hg⟩ := Ast.caseBlind_of_meanings? hf items hs hns
    exact ⟨Node.caseBlind_ofConcat hblind, hg⟩
  | .choice items, hs, h => by
    obtain ⟨⟨ns, f'⟩, hns, heq⟩ := Option.bind_eq_some_iff.mp h
    cases heq
    obtain ⟨hblind, hg⟩ := Ast.caseBlind_of_meanings? hf items hs hns
    exact ⟨Node.caseBlind_ofChoice hblind, hg⟩

/-- Several trees have blind meanings where case is ignored, and it is ignored after them. -/
theorem Ast.caseBlind_of_meanings? {f g : Flags} {ns : List Node} (hf : f.ignoreCase = true) :
    ∀ items : List Ast, Setting.heedCase ∉ Ast.settingsOfAll items →
      Ast.meanings? f items = some (ns, g) →
      (∀ n ∈ ns, n.CaseBlind) ∧ g.ignoreCase = true
  | [], _, h => by
    cases h
    exact ⟨List.forall_mem_nil _, hf⟩
  | a :: rest, hs, h => by
    obtain ⟨⟨m, f'⟩, hm, h⟩ := Option.bind_eq_some_iff.mp h
    obtain ⟨⟨ms, f''⟩, hms, heq⟩ := Option.bind_eq_some_iff.mp h
    cases heq
    obtain ⟨ha, hrest⟩ := not_or.mp (mt List.mem_append.mpr hs)
    obtain ⟨hblind, hf'⟩ := Ast.caseBlind_of_meaning? hf a ha hm
    obtain ⟨hblinds, hg⟩ := Ast.caseBlind_of_meanings? hf' rest hrest hms
    exact ⟨List.forall_mem_cons.mpr ⟨hblind, hblinds⟩, hg⟩

end

/-! ## Programs -/

/-- Every instruction that takes a character takes one of a blind set. -/
def Program.CaseBlind (p : Program) : Prop := ∀ s, Instr.take s ∈ p → s.CaseBlind

namespace Program

variable {p : Program}

/-- An instruction is added to a blind program. -/
theorem caseBlind_push {i : Instr} (hp : p.CaseBlind) (hi : ∀ s, i = .take s → s.CaseBlind) :
    CaseBlind (p.push i) := by
  intro s hs
  rcases Array.mem_push.mp hs with hs | hs
  · exact hp s hs
  · exact hi s hs.symm

/-- An instruction that takes no character. -/
theorem caseBlind_push_other {i : Instr} (hp : p.CaseBlind) (hi : ∀ s, i ≠ .take s) :
    CaseBlind (p.push i) :=
  caseBlind_push hp fun s hs => absurd hs (hi s)

/-- An instruction that takes a character of a blind set is added. -/
theorem caseBlind_push_take {s : CharSet} (hp : p.CaseBlind) (hs : s.CaseBlind) :
    CaseBlind (p.push (.take s)) := by
  refine caseBlind_push hp fun t ht => ?_
  cases ht
  exact hs

/-- A branch takes no character. -/
theorem branch_ne_take (greedy : Bool) (inside outside : Nat) (s : CharSet) :
    branch greedy inside outside ≠ .take s := by
  cases greedy <;> nofun

/-- What keeps a program blind may be done any number of times. -/
theorem caseBlind_repeatTimes {f : Program → Program} (hf : ∀ p, CaseBlind p → CaseBlind (f p))
    (n : Nat) (hp : p.CaseBlind) : (repeatTimes f n p).CaseBlind := by
  induction n generalizing p with
  | zero => exact hp
  | succ n ih => exact ih (hf p hp)

/-- The code of several patterns, one behind the other. -/
theorem caseBlind_emitAll {items : List Node}
    (h : ∀ n ∈ items, ∀ p, CaseBlind p → CaseBlind (n.emit p)) (hp : p.CaseBlind) :
    (Node.emitAll items p).CaseBlind := by
  induction items generalizing p with
  | nil => exact hp
  | cons a rest ih =>
    obtain ⟨ha, hrest⟩ := List.forall_mem_cons.mp h
    exact ih hrest (ha p hp)

/-- The code of several choices. -/
theorem caseBlind_emitChoices {items : List Node}
    (h : ∀ n ∈ items, ∀ p, CaseBlind p → CaseBlind (n.emit p)) (finish : Nat) (hp : p.CaseBlind) :
    (Node.emitChoices items finish p).CaseBlind := by
  induction items generalizing p with
  | nil => exact hp
  | cons a rest ih =>
    obtain ⟨ha, hrest⟩ := List.forall_mem_cons.mp h
    cases rest with
    | nil => exact ha p hp
    | cons b rest =>
      exact ih hrest (caseBlind_push_other (ha _ (caseBlind_push_other hp nofun)) nofun)

/-- The code of a text. -/
theorem caseBlind_emitText {text : List Char} (h : ∀ c ∈ text, (CharSet.single c).CaseBlind)
    (hp : p.CaseBlind) :
    CaseBlind (text.foldl (fun p c => p.push (.take (CharSet.single c))) p) := by
  induction text generalizing p with
  | nil => exact hp
  | cons c rest ih =>
    obtain ⟨hc, hrest⟩ := List.forall_mem_cons.mp h
    exact ih hrest (caseBlind_push_take hp hc)

/-- The code of a repetition, whatever its bounds are. -/
theorem caseBlind_emitRepetition {sub : Node} (h : ∀ p, CaseBlind p → CaseBlind (sub.emit p))
    (min : Nat) (max : Option Nat) (greedy : Bool) (hp : p.CaseBlind) :
    ((Node.repetition min max greedy sub).emit p).CaseBlind := by
  have hbranched : ∀ (inside outside : Nat) (p : Program), p.CaseBlind →
      CaseBlind (p.push (branch greedy inside outside)) := fun inside outside p hp =>
    caseBlind_push_other hp (branch_ne_take greedy inside outside)
  unfold Node.emit
  cases max with
  | some max =>
    refine caseBlind_repeatTimes (fun p hp => h _ (hbranched _ _ p hp)) _ ?_
    exact caseBlind_repeatTimes h min hp
  | none =>
    dsimp only
    split
    · split
      · exact caseBlind_push_other (h _ (hbranched _ _ p hp)) nofun
      · exact hbranched _ _ _ (h _ (hbranched _ _ p hp))
    · exact hbranched _ _ _ (h _ (caseBlind_repeatTimes h _ hp))

/-- The block of a blind pattern only takes characters of blind sets. -/
theorem caseBlind_emit {n : Node} (h : n.CaseBlind) (p : Program) (hp : p.CaseBlind) :
    (n.emit p).CaseBlind := by
  induction h generalizing p with
  | empty => exact hp
  | literal htext => exact caseBlind_emitText htext hp
  | set hs => exact caseBlind_push_take hp hs
  | look l => exact caseBlind_push_other hp nofun
  | repetition min max greedy _ ih => exact caseBlind_emitRepetition ih min max greedy hp
  | capture index _ ih =>
    exact caseBlind_push_other (ih _ (caseBlind_push_other hp nofun)) nofun
  | concat _ ih => exact caseBlind_emitAll ih hp
  | choice _ ih => exact caseBlind_emitChoices ih _ hp

/-- The program of a blind pattern is blind. -/
theorem caseBlind_program {n : Node} (h : n.CaseBlind) : n.program.CaseBlind :=
  caseBlind_push_other (caseBlind_emit (.capture 0 h) _ nofun) nofun

end Program

end PagePreview.Pattern
