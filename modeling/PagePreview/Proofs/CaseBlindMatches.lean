import PagePreview.Proofs.CaseBlindPatterns
import PagePreview.Proofs.LeastMatch
import PagePreview.Proofs.RuleGrammar

/-!
# Rules ignore case

Two texts that differ only in the case of ASCII letters are searched in step: at every position the
same ways to match are followed, because no condition on a position and no set of characters tells
the texts apart. So both match, at the same places, or neither does. The same rule is found for
both, and its target is filled in with texts that differ in case only.
-/

namespace PagePreview

namespace Pattern

/-! ## Positions -/

/-- What is the same for both cases of each ASCII letter is the same for characters that differ
only in case. -/
theorem congr_of_lower {α : Type} (f : Char → α)
    (hf : ∀ n < 0x80, f (Ascii.lower (Char.ofNat n)) = f (Char.ofNat n)) {c d : Char}
    (h : Ascii.lower c = Ascii.lower d) : f c = f d := by
  have hlower : ∀ c, f (Ascii.lower c) = f c := by
    intro c
    by_cases hc : c.toNat < 0x80
    · exact Ascii.forall_lt (P := fun c => f (Ascii.lower c) = f c) hf hc
    · rw [Ascii.lower_of_high hc]
  rw [← hlower c, h, hlower d]

/-- Two positions with the same index, whose sides differ in case only. -/
structure Place.SameButCase (p q : Place) : Prop where
  /-- The number of characters before. -/
  index : p.index = q.index
  /-- The characters before. -/
  before : p.before.map Ascii.lower = q.before.map Ascii.lower
  /-- The characters after. -/
  after : p.after.map Ascii.lower = q.after.map Ascii.lower

/-- A question about one side of a place that no case of ASCII changes. -/
theorem side_congr {α : Type} (f : Option Char → α)
    (hf : ∀ n < 0x80, f (some (Ascii.lower (Char.ofNat n))) = f (some (Char.ofNat n)))
    {a b : Option Char} (h : a.map Ascii.lower = b.map Ascii.lower) : f a = f b := by
  cases a with
  | none =>
    cases b with
    | none => rfl
    | some d => cases h
  | some c =>
    cases b with
    | none => cases h
    | some d => exact congr_of_lower (fun c => f (some c)) hf (Option.some.inj h)

/-- No condition on a position tells the cases of a letter apart: it asks where the text ends, for
the characters that end a line, and for word characters. -/
theorem Look.holds_congr {p q : Place} (h : p.SameButCase q) (l : Look) :
    l.holds p = l.holds q := by
  have hends : p.before.isNone = q.before.isNone ∧ p.after.isNone = q.after.isNone :=
    ⟨side_congr Option.isNone (fun _ _ => rfl) h.before,
      side_congr Option.isNone (fun _ _ => rfl) h.after⟩
  have hfeed : ∀ {a b : Option Char}, a.map Ascii.lower = b.map Ascii.lower →
      (a == some '\n') = (b == some '\n') := side_congr (· == some '\n') (by decide)
  have hreturn : ∀ {a b : Option Char}, a.map Ascii.lower = b.map Ascii.lower →
      (a == some '\r') = (b == some '\r') := side_congr (· == some '\r') (by decide)
  have hword : ∀ (u : Bool) {a b : Option Char}, a.map Ascii.lower = b.map Ascii.lower →
      isWordSide u a = isWordSide u b := fun u =>
    side_congr (isWordSide u) (by cases u <;> decide)
  cases l with
  | textStart => exact hends.1
  | textEnd => exact hends.2
  | lineStart crlf =>
    cases crlf <;>
      simp only [Look.holds, bne, hends.1, hfeed h.before, hfeed h.after, hreturn h.before]
  | lineEnd crlf =>
    cases crlf <;>
      simp only [Look.holds, bne, hends.2, hfeed h.after, hreturn h.before, hreturn h.after]
  | _ u => simp only [Look.holds, hword u h.before, hword u h.after]

/-! ## Searching -/

variable {program : Program}

/-- Threads follow the same ways at places that differ in case. -/
theorem follow_congr {p q : Place} (h : p.SameButCase q) (fuel : Nat) (threads : List Thread)
    (seen : Std.HashSet Nat) (ready : List Thread) :
    follow program p fuel threads seen ready = follow program q fuel threads seen ready := by
  induction fuel generalizing threads seen ready with
  | zero => rfl
  | succ fuel ih =>
    cases threads with
    | nil => rfl
    | cons t rest => simp only [follow, ih, h.index, Look.holds_congr h]

/-- Threads take characters that differ in case alike, if the program is blind to case. -/
theorem advance_congr (hprogram : program.CaseBlind) {a b : Option Char}
    (h : a.map Ascii.lower = b.map Ascii.lower) (threads moved : List Thread) :
    advance program a threads moved = advance program b threads moved := by
  induction threads generalizing moved with
  | nil => rfl
  | cons t rest ih =>
    unfold advance
    cases htake : program[t.pc]? with
    | none => exact ih moved
    | some i =>
      cases i with
      | accept => rfl
      | take s =>
        have hs : s.CaseBlind := hprogram s (Array.mem_of_getElem? htake)
        cases a with
        | none =>
          cases b with
          | none => exact ih moved
          | some d => cases h
        | some c =>
          cases b with
          | none => cases h
          | some d =>
            dsimp only
            rw [hs c d (Option.some.inj h), ih, ih]
      | _ => exact ih moved

/-- Texts that differ in case only are searched in step, with the same outcome. -/
theorem run_congr (hprogram : program.CaseBlind) (blank : Slots) {text other : List Char}
    (h : text.map Ascii.lower = other.map Ascii.lower) (index : Nat) {before earlier : Option Char}
    (hbefore : before.map Ascii.lower = earlier.map Ascii.lower) (threads : List Thread)
    (found : Option Slots) :
    run program blank text index before threads found =
      run program blank other index earlier threads found := by
  induction text generalizing other index before earlier threads found with
  | nil =>
    cases other with
    | nil =>
      have hplace : Place.SameButCase ⟨index, before, none⟩ ⟨index, earlier, none⟩ :=
        ⟨rfl, hbefore, rfl⟩
      unfold run
      dsimp only [List.head?_nil]
      rw [follow_congr hplace]
    | cons d tail => cases h
  | cons c rest ih =>
    cases other with
    | nil => cases h
    | cons d tail =>
      obtain ⟨hc, hrest⟩ := List.cons.inj h
      have hafter : (some c).map Ascii.lower = (some d).map Ascii.lower := congrArg some hc
      have hplace : Place.SameButCase ⟨index, before, some c⟩ ⟨index, earlier, some d⟩ :=
        ⟨rfl, hbefore, hafter⟩
      unfold run
      dsimp only [List.head?_cons]
      rw [follow_congr hplace, advance_congr hprogram hafter, ih hrest (index + 1) hafter]

/-! ## Where the groups lie -/

/-- The positions of a group's first character and of the one after its last. -/
def rangeOf (slots : Slots) (n : Nat) : Option (Nat × Nat) :=
  match slots[2 * n]?, slots[2 * n + 1]? with
  | some (some a), some (some b) => some (a, b)
  | _, _ => none

/-- The part of a text in a range. -/
def cut (text : String) (range : Nat × Nat) : String := between text.toList range.1 range.2

/-- The ranges of the groups of the first match in a text. Group 0 is the whole match, and a group
that took no part has none. -/
def ranges? (p : Pattern) (text : String) : Option (List (Option (Nat × Nat))) :=
  (p.slots? text.toList).map fun slots => (List.range p.groups).map (rangeOf slots)

/-- A group is the text at its range. -/
theorem groupOf_eq (text : String) (slots : Slots) (n : Nat) :
    groupOf text.toList slots n = (rangeOf slots n).map (cut text) := by
  unfold groupOf rangeOf
  rcases slots[2 * n]? with _ | _ | a <;> rcases slots[2 * n + 1]? with _ | _ | b <;> rfl

/-- What a group holds is the part of the text in its range. -/
theorem captures_eq (p : Pattern) (text : String) :
    p.captures text = (p.ranges? text).map fun ranges => ranges.map (Option.map (cut text)) := by
  unfold captures ranges?
  rw [Option.map_map]
  congr 1
  funext slots
  rw [Function.comp_apply, List.map_map]
  exact List.map_congr_left fun n _ => groupOf_eq text slots n

/-- Texts that differ in case differ in case at every range. -/
theorem sameIgnoringCase_cut {text other : String} (h : Ascii.sameIgnoringCase text other = true)
    (range : Nat × Nat) : Ascii.sameIgnoringCase (cut text range) (cut other range) = true := by
  rw [Ascii.sameIgnoringCase_iff] at h ⊢
  unfold cut between
  simp only [String.toList_ofList, List.map_take, List.map_drop, h]

/-- Where no flag makes case count, case has no influence on where the groups lie. -/
theorem ranges?_congr {p : Pattern} (hp : p.program.CaseBlind) {text other : String}
    (h : Ascii.sameIgnoringCase text other = true) : p.ranges? text = p.ranges? other := by
  unfold ranges? slots?
  rw [run_congr hp _ (Ascii.sameIgnoringCase_iff.mp h) 0 rfl]

/-- A pattern that never heeds case has a program that is blind to it. -/
theorem caseBlind_of_compile? {source : String} {ast : Ast} {p : Pattern}
    (hast : Ast.parse? source = some ast) (hcase : Setting.heedCase ∉ ast.settings)
    (h : compile? source = some p) : p.program.CaseBlind := by
  unfold compile? at h
  obtain ⟨other, hother, h⟩ := Option.bind_eq_some_iff.mp h
  cases hast.symm.trans hother
  obtain ⟨⟨node, f⟩, hnode, h⟩ := Option.bind_eq_some_iff.mp h
  obtain ⟨-, h⟩ := Option.ite_none_right_eq_some.mp h
  cases h
  exact Program.caseBlind_program (Ast.caseBlind_of_meaning? rfl ast hcase hnode).1

end Pattern

/-- A template is filled in with texts that differ in case only. -/
theorem Template.expand_congr (template : String) {groups others : Template.Groups}
    (h : ∀ n, (Template.groupText groups n).map Ascii.lower =
      (Template.groupText others n).map Ascii.lower) :
    Ascii.sameIgnoringCase (expand template groups) (expand template others) = true := by
  rw [Ascii.sameIgnoringCase_iff]
  unfold expand fill
  rw [String.toList_ofList, String.toList_ofList, List.map_flatMap, List.map_flatMap]
  congr 1
  funext piece
  cases piece with
  | plain c => rfl
  | group n =>
    dsimp only
    split
    · exact h n
    · rfl

open Pattern (Ast CharSet Flags Literal Setting cut)

namespace Rule

variable {r : Rule}

/-- The rule is compiled from a pattern in which no flag makes case count. -/
def IgnoresCase (r : Rule) : Prop :=
  ∃ action source target ast, compile action source target = .ok r ∧
    Ast.parse? source = some ast ∧ Setting.heedCase ∉ ast.settings

/-- A rule that ignores case has a program that is blind to it. -/
theorem IgnoresCase.caseBlind (h : r.IgnoresCase) : r.pattern.program.CaseBlind := by
  obtain ⟨action, source, target, ast, hcompile, hast, hcase⟩ := h
  have hsome : (compile action source target).toOption = some r := by
    rw [hcompile]
    rfl
  obtain ⟨-, -, hpattern, -⟩ := compile_eq_some_iff.mp hsome
  exact Pattern.caseBlind_of_compile? hast hcase hpattern

/-- The groups lie in the same ranges of texts that differ in case only. -/
theorem IgnoresCase.captures (h : r.IgnoresCase) {text other : String}
    (hsame : Ascii.sameIgnoringCase text other = true) :
    r.captures text = none ∧ r.captures other = none ∨
    ∃ ranges, r.pattern.ranges? text = some ranges ∧ r.pattern.ranges? other = some ranges ∧
      r.captures text = some (ranges.map (Option.map (cut text))) ∧
      r.captures other = some (ranges.map (Option.map (cut other))) := by
  have hranges := Pattern.ranges?_congr h.caseBlind hsame
  unfold Rule.captures
  rw [Pattern.captures_eq, Pattern.captures_eq, ← hranges]
  cases r.pattern.ranges? text with
  | none => exact .inl ⟨rfl, rfl⟩
  | some ranges => exact .inr ⟨ranges, rfl, rfl, rfl, rfl⟩

end Rule

namespace RuleSet

variable {rules : RuleSet} {candidates others : List String}

/-- Lists of texts that differ, place by place, in case only. -/
def SameButCase (candidates others : List String) : Prop :=
  List.Forall₂ (fun a b => Ascii.sameIgnoringCase a b = true) candidates others

/-- Candidates that differ in case from others: the others differ in case from them. -/
theorem SameButCase.symm (h : SameButCase candidates others) : SameButCase others candidates :=
  List.Forall₂.flip (h.imp fun _ _ hab =>
    Ascii.sameIgnoringCase_iff.mpr (Ascii.sameIgnoringCase_iff.mp hab).symm)

/-- The candidates stand in the same places. -/
theorem SameButCase.getElem? (h : SameButCase candidates others) {i : Nat} {text : String}
    (htext : candidates[i]? = some text) :
    ∃ other, others[i]? = some other ∧ Ascii.sameIgnoringCase text other = true := by
  unfold SameButCase at h
  induction h generalizing i with
  | nil => cases htext
  | cons hhead _ ih =>
    cases i with
    | zero =>
      cases htext
      exact ⟨_, rfl, hhead⟩
    | succ i => exact ih htext

/-- The texts of a group differ in case. -/
theorem map_lower_groupText {text other : String}
    (hsame : Ascii.sameIgnoringCase text other = true) (ranges : List (Option (Nat × Nat)))
    (n : Nat) :
    (Template.groupText (ranges.map (Option.map (cut text))) n).map Ascii.lower =
      (Template.groupText (ranges.map (Option.map (cut other))) n).map Ascii.lower := by
  unfold Template.groupText
  rw [List.getElem?_map, List.getElem?_map]
  rcases ranges[n]? with _ | _ | range
  · rfl
  · rfl
  · exact Ascii.sameIgnoringCase_iff.mp (Pattern.sameIgnoringCase_cut hsame range)

/-- What is found with texts is found at the same place with texts that differ in case only. -/
theorem FoundAt.of_sameIgnoringCase (hrules : ∀ r ∈ rules, r.IgnoresCase)
    (hsame : SameButCase candidates others) {m : Match} {p : Nat ×ₗ Nat}
    (h : rules.FoundAt candidates m p) :
    ∃ n, rules.FoundAt others n p ∧ n.rule = m.rule ∧
      Ascii.sameIgnoringCase m.target n.target = true := by
  obtain ⟨text, htext, hcaptures⟩ := Option.bind_eq_some_iff.mp h.groups
  obtain ⟨other, hother, hcase⟩ := hsame.getElem? htext
  obtain ⟨hnone, -⟩ | ⟨ranges, -, -, hranges, hranges'⟩ :=
    (hrules m.rule h.mem.1).captures hcase
  · cases hnone.symm.trans hcaptures
  · refine ⟨⟨m.rule, ranges.map (Option.map (cut other))⟩, ⟨h.rule, ?_⟩, rfl, ?_⟩
    · exact Option.bind_eq_some_iff.mpr ⟨other, hother, hranges'⟩
    · have hgroups := Option.some.inj (hcaptures.symm.trans hranges)
      unfold Match.target
      rw [hgroups]
      exact Template.expand_congr m.rule.target (map_lower_groupText hcase ranges)

/-- Rules that match some candidates match all that differ from them in case. -/
theorem hits_subset (hrules : ∀ r ∈ rules, r.IgnoresCase)
    (hsame : SameButCase candidates others) : rules.hits candidates ⊆ rules.hits others := by
  rintro p ⟨m, hm⟩
  obtain ⟨n, hn, -, -⟩ := hm.of_sameIgnoringCase hrules hsame
  exact ⟨n, hn⟩

/-- The case of ASCII letters has no influence on rules whose patterns never make it count. Of two
texts that differ in case only, such a rule matches both or neither, and every group lies in the
same range of both or takes no part in either. In two lists of such texts the same rules match at
the same places, so the same rule is found for both, and its targets differ in case only. -/
theorem rules_ignore_case (rules : RuleSet) (hrules : ∀ r ∈ rules, r.IgnoresCase) :
    (∀ r ∈ rules, ∀ text other, Ascii.sameIgnoringCase text other = true →
      r.captures text = none ∧ r.captures other = none ∨
      ∃ ranges, r.pattern.ranges? text = some ranges ∧ r.pattern.ranges? other = some ranges ∧
        r.captures text = some (ranges.map (Option.map (cut text))) ∧
        r.captures other = some (ranges.map (Option.map (cut other)))) ∧
    (∀ candidates others, SameButCase candidates others →
      rules.hits candidates = rules.hits others ∧
      (rules.resolve candidates = none ∧ rules.resolve others = none ∨
      ∃ m n p, rules.resolve candidates = some m ∧ rules.resolve others = some n ∧
        rules.FoundAt candidates m p ∧ rules.FoundAt others n p ∧
        IsLeast (rules.hits candidates) p ∧ n.rule = m.rule ∧
        Ascii.sameIgnoringCase m.target n.target = true)) := by
  refine ⟨fun r hr text other => (hrules r hr).captures, fun candidates others hsame => ?_⟩
  have hhits : rules.hits candidates = rules.hits others :=
    Set.Subset.antisymm (hits_subset hrules hsame) (hits_subset hrules hsame.symm)
  refine ⟨hhits, ?_⟩
  cases hresolve : rules.resolve candidates with
  | none =>
    refine .inl ⟨rfl, ?_⟩
    cases hother : rules.resolve others with
    | none => rfl
    | some n =>
      obtain ⟨p, hn, -⟩ := exists_least_of_resolve hother
      obtain ⟨m, hm, -⟩ := hn.of_sameIgnoringCase hrules hsame.symm
      obtain ⟨hrule, text, htext, hcaptures⟩ := hm.mem
      cases (resolve_eq_none_iff.mp hresolve m.rule hrule text htext).symm.trans hcaptures
  | some m =>
    obtain ⟨p, hm, hleast⟩ := exists_least_of_resolve hresolve
    obtain ⟨n, hn, hrule, htarget⟩ := hm.of_sameIgnoringCase hrules hsame
    have hother : rules.resolve others = some n :=
      resolve_eq_some_iff.mpr ⟨p, hn, hhits ▸ hleast⟩
    exact .inr ⟨m, n, p, rfl, hother, hm, hn, hleast, hrule, htarget⟩

/-- The pattern `(?-u)/(a)`. -/
def letterA : Pattern :=
  ⟨"(?-u)/(a)", #[.save 0, .take [(0x2F, 0x2F)], .save 2, .take [(0x41, 0x41), (0x61, 0x61)],
    .save 3, .save 1, .accept], 2⟩

/-- The tree that is read from it. -/
def letterTree : Ast :=
  .concat [.flags [⟨'u', false⟩], .literal ⟨'/', false⟩, .capture 1 (.literal ⟨'a', false⟩)]

/-- What a tree of the same shape is made of. -/
def lettersOf? : Ast → Option (Setting × Literal × Nat × Literal)
  | .concat [.flags [s], .literal front, .capture n (.literal back)] => some (s, front, n, back)
  | _ => none

/-- What the tree of two letters is built of. -/
theorem eq_of_lettersOf? {ast : Ast} {s : Setting} {front back : Literal} {n : Nat}
    (h : lettersOf? ast = some (s, front, n, back)) :
    ast = .concat [.flags [s], .literal front, .capture n (.literal back)] := by
  unfold lettersOf? at h
  split at h
  · cases h
    rfl
  · cases h

/-- The pattern is read as this tree. -/
theorem parse?_letterA : Ast.parse? "(?-u)/(a)" = some letterTree := by
  -- Equality of trees is not decidable by evaluation, but what they are made of can be compared.
  have hread : (Ast.parse? "(?-u)/(a)").bind lettersOf? =
      some (⟨'u', false⟩, ⟨'/', false⟩, 1, ⟨'a', false⟩) := by decide +kernel
  obtain ⟨ast, hast, hletters⟩ := Option.bind_eq_some_iff.mp hread
  rw [hast, eq_of_lettersOf? hletters]
  rfl

/-- Both cases of a letter are taken, in ascending order. -/
theorem foldAsciiCase_single_a :
    CharSet.foldAsciiCase (CharSet.single 'a') = [(0x41, 0x41), (0x61, 0x61)] := by
  have hcases : CharSet.single 'a' ++ ((List.range 26).flatMap fun i =>
      (if Unicode.Intervals.contains (CharSet.single 'a') (0x41 + i) then
        [(0x61 + i, 0x61 + i)] else []) ++
      (if Unicode.Intervals.contains (CharSet.single 'a') (0x61 + i) then
        [(0x41 + i, 0x41 + i)] else [])) = [(0x61, 0x61), (0x41, 0x41)] := by decide
  unfold CharSet.foldAsciiCase CharSet.ofIntervals
  rw [hcases]
  simp [List.mergeSort, CharSet.join]

/-- The slash stays a literal, and the letter becomes a set. -/
theorem meaning?_letterTree : letterTree.meaning? Flags.initial =
    some (.concat [.literal ['/'], .capture 1 (.set [(0x41, 0x41), (0x61, 0x61)])],
      { Flags.initial with unicode := false }) := by
  have hslash : CharSet.foldAsciiCase (CharSet.single '/') = [(0x2F, 0x2F)] := by decide +kernel
  simp [letterTree, Ast.meaning?, Ast.meanings?, Flags.applyAll, Flags.apply, Flags.initial,
    Flags.literal?, Flags.fold, foldAsciiCase_single_a, hslash]
  rfl

/-- The pattern is small enough for its automata, and this is its program. -/
theorem compile?_letterA : Pattern.compile? "(?-u)/(a)" = some letterA := by
  unfold Pattern.compile?
  rw [parse?_letterA, Option.bind_eq_bind, Option.bind_some, meaning?_letterTree]
  decide +kernel

/-- A rule whose target takes over the letter that it matches. -/
theorem rules_ignore_case_letter :
    let rule : Rule := ⟨.rewrite, letterA, "/x$1"⟩
    Rule.compile .rewrite "(?-u)/(a)" "/x$1" = .ok rule ∧ rule.IgnoresCase ∧
      resolve [rule] ["/A"] = some ⟨rule, [some "/A", some "A"]⟩ ∧
      ∃ n, resolve [rule] ["/a"] = some n ∧ n.rule = rule ∧
        Ascii.sameIgnoringCase "/xA" n.target = true := by
  intro rule
  have hcompile : Rule.compile .rewrite "(?-u)/(a)" "/x$1" = .ok rule := by
    unfold Rule.compile
    rw [compile?_letterA]
    rfl
  have hrule : rule.IgnoresCase := ⟨_, _, _, _, hcompile, parse?_letterA, by decide⟩
  have hslots : letterA.slots? ['/', 'A'] = some #[some 0, some 2, some 1, some 2] := by
    simp [Pattern.slots?, Pattern.run, Pattern.follow, Pattern.advance, CharSet.has,
      Unicode.Intervals.contains, letterA]
    rfl
  have hcaptures : rule.captures "/A" = some [some "/A", some "A"] := by
    unfold Rule.captures Pattern.captures
    rw [show rule.pattern.slots? "/A".toList = _ from hslots]
    rfl
  have hfound : resolve [rule] ["/A"] = some ⟨rule, [some "/A", some "A"]⟩ := by
    simp [resolve, matchOf, hcaptures]
  have hfilled : Match.target ⟨rule, [some "/A", some "A"]⟩ = "/xA" := by decide +kernel
  have hsame : Ascii.sameIgnoringCase "/A" "/a" = true := by decide +kernel
  obtain ⟨-, hresolve⟩ := rules_ignore_case [rule] (List.forall_mem_singleton.mpr hrule)
  obtain ⟨-, ⟨hnone, -⟩ | ⟨m, n, p, hm, hn, -, -, -, hsame, htarget⟩⟩ :=
    hresolve ["/A"] ["/a"] (.cons hsame .nil)
  · cases hnone.symm.trans hfound
  · cases hm.symm.trans hfound
    rw [hfilled] at htarget
    exact ⟨hcompile, hrule, hfound, n, hn, hsame, htarget⟩

end RuleSet

end PagePreview
