import Mathlib.Data.Prod.Lex
import Mathlib.Order.Bounds.Basic
import PagePreview.Proofs.FirstMatch

/-!
# The least match

Every rule is tried on all texts before the next rule is tried on any. So of all pairs of a rule and
a text that it matches, the search finds the least one: the place of the rule counts first, and the
place of the text only where the rule is the same. It finds nothing only if there is no such pair.
Rules that are put after others are asked only when those find nothing, and a text that is tried
twice changes nothing, so a request target may be tried as one text where both of its texts agree.
-/

namespace PagePreview.RuleSet

variable {rules : RuleSet} {candidates : List String} {m : Match}

/-- A match is that of the rule at one place with the text at another. -/
structure FoundAt (rules : RuleSet) (candidates : List String) (m : Match) (p : Nat ×ₗ Nat) :
    Prop where
  /-- The rule stands at the first place. -/
  rule : rules[(ofLex p).1]? = some m.rule
  /-- It captures these groups in the text at the second place. -/
  groups : candidates[(ofLex p).2]?.bind m.rule.captures = some m.groups

/-- The places of all pairs of a rule and a text that it matches. -/
def hits (rules : RuleSet) (candidates : List String) : Set (Nat ×ₗ Nat) :=
  {p | ∃ m, rules.FoundAt candidates m p}

/-- At each pair of a rule and a text one match is found at most. -/
theorem FoundAt.unique {other : Match} {p : Nat ×ₗ Nat} (h : rules.FoundAt candidates m p)
    (ho : rules.FoundAt candidates other p) : other = m := by
  obtain ⟨rule, groups⟩ := m
  obtain ⟨otherRule, otherGroups⟩ := other
  have hrule : otherRule = rule := Option.some.inj (ho.rule.symm.trans h.rule)
  subst hrule
  have hgroups : otherGroups = groups := Option.some.inj (ho.groups.symm.trans h.groups)
  rw [hgroups]

/-- A rule has no match if it matches none of the texts. -/
theorem matchOf_eq_none_iff {rule : Rule} :
    matchOf candidates rule = none ↔ ∀ text ∈ candidates, rule.captures text = none := by
  simp [matchOf]

/-- There is no match if no rule matches any of the texts. -/
theorem resolve_eq_none_iff :
    rules.resolve candidates = none ↔
      ∀ rule ∈ rules, ∀ text ∈ candidates, rule.captures text = none := by
  simp [resolve, matchOf_eq_none_iff]

/-- Where a pair matches, the rule is found in the rules and the text in the texts. -/
theorem FoundAt.mem {p : Nat ×ₗ Nat} (h : rules.FoundAt candidates m p) :
    m.rule ∈ rules ∧ ∃ text ∈ candidates, m.rule.captures text = some m.groups := by
  obtain ⟨text, htext, hcaptures⟩ := Option.bind_eq_some_iff.mp h.groups
  exact ⟨List.mem_of_getElem? h.rule, text, List.mem_of_getElem? htext, hcaptures⟩

/-- No pair has an earlier rule if no earlier rule matches. -/
theorem FoundAt.length_le {before after : RuleSet} {p : Nat ×ₗ Nat}
    (h : FoundAt (before ++ after) candidates m p)
    (hb : ∀ rule ∈ before, matchOf candidates rule = none) : before.length ≤ (ofLex p).1 := by
  by_contra hlt
  have hfound : FoundAt before candidates m p := by
    have hrule := h.rule
    rw [List.getElem?_append_left (by omega)] at hrule
    exact ⟨hrule, h.groups⟩
  obtain ⟨hrule, text, htext, hcaptures⟩ := hfound.mem
  have hnone := matchOf_eq_none_iff.mp (hb m.rule hrule) text htext
  rw [hcaptures] at hnone
  cases hnone

/-- No pair has an earlier text if its rule matches no earlier text. -/
theorem FoundAt.length_le_of_skipped {skipped rest : List String} {p : Nat ×ₗ Nat}
    (h : rules.FoundAt (skipped ++ rest) m p)
    (hs : ∀ text ∈ skipped, m.rule.captures text = none) : skipped.length ≤ (ofLex p).2 := by
  by_contra hlt
  have hfound : rules.FoundAt skipped m p := by
    have hgroups := h.groups
    rw [List.getElem?_append_left (by omega)] at hgroups
    exact ⟨h.rule, hgroups⟩
  obtain ⟨-, text, htext, hcaptures⟩ := hfound.mem
  rw [hs text htext] at hcaptures
  cases hcaptures

/-- What the search finds, it finds at the least pair. -/
theorem exists_least_of_resolve (h : rules.resolve candidates = some m) :
    ∃ p, rules.FoundAt candidates m p ∧ IsLeast (rules.hits candidates) p := by
  obtain ⟨before, rule, after, rfl, hm, hb⟩ := List.findSome?_eq_some_iff.mp h
  obtain ⟨rfl, skipped, text, rest, rfl, hs, htext⟩ := matchOf_eq_some_iff.mp hm
  have hfound : FoundAt (before ++ m.rule :: after) (skipped ++ text :: rest) m
      (toLex (before.length, skipped.length)) := ⟨by simp, by simpa using htext⟩
  refine ⟨_, hfound, ⟨m, hfound⟩, ?_⟩
  rintro p ⟨other, hother⟩
  have hrule := hother.length_le hb
  rw [Prod.Lex.le_iff]
  rcases Nat.lt_or_eq_of_le hrule with hlt | heq
  · exact .inl hlt
  · -- The rule is the same, so it matches none of the texts that were skipped.
    have hsame : other.rule = m.rule := by
      have hat := hother.rule
      rw [← heq] at hat
      simpa using hat.symm
    exact .inr ⟨heq, hother.length_le_of_skipped (hsame ▸ hs)⟩

/-- The match is the one found at the least pair. -/
theorem resolve_eq_some_iff :
    rules.resolve candidates = some m ↔
      ∃ p, rules.FoundAt candidates m p ∧ IsLeast (rules.hits candidates) p := by
  constructor
  · exact exists_least_of_resolve
  · rintro ⟨p, hfound, hleast⟩
    cases hresolve : rules.resolve candidates with
    | none =>
      obtain ⟨hrule, text, htext, hcaptures⟩ := hfound.mem
      rw [resolve_eq_none_iff.mp hresolve m.rule hrule text htext] at hcaptures
      cases hcaptures
    | some other =>
      obtain ⟨q, hother, hq⟩ := exists_least_of_resolve hresolve
      rw [hq.unique hleast] at hother
      rw [hfound.unique hother]

/-- A text that is tried twice is tried once. -/
theorem matchOf_twice (text : String) (rule : Rule) :
    matchOf [text, text] rule = matchOf [text] rule := by
  cases hcaptures : rule.captures text <;> simp [matchOf, hcaptures]

/-- A target is resolved as if both its forms were tried, also where they are the same. -/
theorem resolveTarget_eq_resolve (rules : RuleSet) (target : RequestTarget) :
    rules.resolveTarget target = rules.resolve [target.raw, target.decodedPath] := by
  unfold resolveTarget RequestTarget.candidates
  by_cases hsame : target.raw = target.decodedPath
  · rw [if_pos hsame, ← hsame]
    simp only [resolve, funext (matchOf_twice target.raw)]
  · rw [if_neg hsame]

/-- The search finds the match at the least pair of places, and nothing exactly when no rule matches
any text. Of two lists of rules one after the other, the second is asked only when the first finds
nothing. For a request target the texts are the target as it was written and its decoded path, even
if they are the same. -/
theorem least_pair_decides (rules : RuleSet) :
    (∀ candidates m, rules.resolve candidates = some m ↔
      ∃ p, rules.FoundAt candidates m p ∧ IsLeast (rules.hits candidates) p) ∧
    (∀ candidates, rules.resolve candidates = none ↔
      ∀ rule ∈ rules, ∀ text ∈ candidates, rule.captures text = none) ∧
    (∀ (later : RuleSet) (candidates : List String), (rules ++ later).resolve candidates =
      (rules.resolve candidates).or (later.resolve candidates)) ∧
    (∀ target, rules.resolveTarget target = rules.resolve [target.raw, target.decodedPath]) := by
  refine ⟨fun candidates m => resolve_eq_some_iff, fun candidates => resolve_eq_none_iff, ?_,
    resolveTarget_eq_resolve rules⟩
  intro later candidates
  exact List.findSome?_append

end PagePreview.RuleSet
