import PagePreview.Rule.Dispatch

/-!
# The first rule that matches decides

Of the rules that match a request, only the first is ever looked at. What it decides is what it
would decide alone, and that holds as well when its target turns out to be unusable, so that the
request goes on as it is.
-/

namespace PagePreview

/-- A rule matches a request target if it matches one of the texts that the target is tested as. -/
def Rule.Matches (rule : Rule) (target : RequestTarget) : Prop :=
  ∃ text ∈ target.candidates, (rule.captures text).isSome

/-- A match whose target cannot be used: the target of a rewrite is neither a path nor a URL with
a scheme, or that of a proxy rule is no `http` URL with a host. -/
def Match.Unusable (m : Match) : Prop :=
  match m.rule.action with
  | .rewrite => ∀ t, RequestTarget.parse m.target = .ok t →
      m.target.toList.head? ≠ some '/' ∧ t.scheme = none
  | .redirect => False
  | .proxy => ∀ url, WebUrl.parse? m.target = some url → url.scheme ≠ "http" ∨ url.host = none

/-- A text is no rewritten target if it is no target, or has neither slash nor scheme. -/
theorem rewriteTarget?_eq_none_iff (text : String) :
    rewriteTarget? text = none ↔ ∀ t, RequestTarget.parse text = .ok t →
      text.toList.head? ≠ some '/' ∧ t.scheme = none := by
  unfold rewriteTarget?
  cases hparse : RequestTarget.parse text with
  | error e => simp
  | ok t =>
    dsimp only
    constructor
    · intro h t' ht'
      cases ht'
      by_cases husable : text.toList.head? = some '/' ∨ t.scheme.isSome
      · rw [if_pos husable] at h
        cases h
      · rw [not_or] at husable
        exact ⟨husable.1, by simpa using husable.2⟩
    · intro h
      obtain ⟨hpath, hscheme⟩ := h t rfl
      rw [if_neg]
      rintro (hslash | hsome)
      · exact hpath hslash
      · rw [hscheme] at hsome
        exact absurd hsome (by simp)

/-- Nothing is forwarded to a text that is no `http` URL with a host. -/
theorem ProxyTarget.parse_error_iff (text : String) (inbound : Option String) :
    (∃ e, ProxyTarget.parse text inbound = .error e) ↔
      ∀ url, WebUrl.parse? text = some url → url.scheme ≠ "http" ∨ url.host = none := by
  unfold ProxyTarget.parse
  cases hparse : WebUrl.parse? text with
  | none => simp
  | some url =>
    dsimp only
    constructor
    · rintro ⟨e, he⟩ url' hurl
      cases hurl
      by_cases hs : url.scheme = "http"
      · rw [if_neg (not_not_intro hs)] at he
        cases hh : url.host with
        | none => exact Or.inr rfl
        | some host =>
          rw [hh] at he
          cases he
      · exact Or.inl hs
    · intro h
      rcases h url rfl with hs | hh
      · exact ⟨.unsupportedScheme url.scheme, if_pos hs⟩
      · by_cases hs : url.scheme = "http"
        · refine ⟨.invalidTarget text, ?_⟩
          rw [if_neg (not_not_intro hs), hh]
        · exact ⟨.unsupportedScheme url.scheme, if_pos hs⟩

/-- A match lets the request go on as it is exactly when its target cannot be used. -/
theorem Dispatch.ofMatch_eq_passThrough_iff (m : Match) (query : Option String) :
    Dispatch.ofMatch m query = .passThrough ↔ m.Unusable := by
  unfold Dispatch.ofMatch Match.Unusable
  cases m.rule.action with
  | redirect => simp
  | rewrite =>
    dsimp only
    rw [← rewriteTarget?_eq_none_iff]
    cases rewriteTarget? m.target <;> simp
  | proxy =>
    dsimp only
    rw [← ProxyTarget.parse_error_iff _ query]
    cases ProxyTarget.parse m.target query <;> simp

namespace RuleSet

/-- What a rule captures, it captures in the first text that it matches. -/
theorem matchOf_eq_some_iff {candidates : List String} {rule : Rule} {m : Match} :
    matchOf candidates rule = some m ↔ m.rule = rule ∧
      ∃ skipped text rest, candidates = skipped ++ text :: rest ∧
        (∀ other ∈ skipped, rule.captures other = none) ∧ rule.captures text = some m.groups := by
  unfold matchOf
  rw [Option.map_eq_some_iff]
  constructor
  · rintro ⟨groups, hgroups, rfl⟩
    obtain ⟨skipped, text, rest, hc, ht, hs⟩ := List.findSome?_eq_some_iff.mp hgroups
    exact ⟨rfl, skipped, text, rest, hc, hs, ht⟩
  · rintro ⟨rfl, skipped, text, rest, hc, hs, ht⟩
    exact ⟨m.groups, List.findSome?_eq_some_iff.mpr ⟨skipped, text, rest, hc, ht, hs⟩, rfl⟩

/-- A rule that does not match has no match. -/
theorem matchOf_eq_none {rule : Rule} {target : RequestTarget} (h : ¬rule.Matches target) :
    matchOf target.candidates rule = none := by
  unfold matchOf
  rw [Option.map_eq_none_iff, List.findSome?_eq_none_iff]
  intro text htext
  cases hc : rule.captures text with
  | none => rfl
  | some groups => exact absurd ⟨text, htext, by rw [hc]; rfl⟩ h

/-- A rule that matches has one. -/
theorem matchOf_isSome {rule : Rule} {target : RequestTarget} (h : rule.Matches target) :
    ∃ m, matchOf target.candidates rule = some m := by
  obtain ⟨text, htext, hc⟩ := h
  have hsome : (target.candidates.findSome? rule.captures).isSome := by
    rw [List.findSome?_isSome_iff]
    exact ⟨text, htext, hc⟩
  obtain ⟨groups, hgroups⟩ := Option.isSome_iff_exists.mp hsome
  exact ⟨⟨rule, groups⟩, by rw [matchOf, hgroups]; rfl⟩

/-- Rules that do not match are passed over. -/
theorem resolveTarget_eq_none {rules : RuleSet} {target : RequestTarget}
    (h : ∀ rule ∈ rules, ¬rule.Matches target) : rules.resolveTarget target = none := by
  unfold resolveTarget resolve
  rw [List.findSome?_eq_none_iff]
  intro rule hrule
  exact matchOf_eq_none (h rule hrule)

/-- The search ends at the first rule that matches. -/
theorem resolveTarget_first {before : RuleSet} {rule : Rule} {target : RequestTarget} {m : Match}
    (hb : ∀ earlier ∈ before, ¬earlier.Matches target)
    (hm : matchOf target.candidates rule = some m) (after : RuleSet) :
    (before ++ [rule] ++ after).resolveTarget target = some m := by
  unfold resolveTarget resolve
  rw [List.append_assoc, List.findSome?_append, List.findSome?_eq_none_iff.mpr, Option.none_or,
    List.singleton_append, List.findSome?_cons, hm]
  intro earlier hearlier
  exact matchOf_eq_none (hb earlier hearlier)

/-- The first rule that matches decides as it would alone, with what it captures in the first text
that it matches. The request goes on as it is exactly when the target of that match cannot be used,
or when no rule matches; no later rule is tried. -/
theorem first_match_decides (target : RequestTarget) :
    (∀ (before after : RuleSet) (rule : Rule), rule.Matches target →
      (∀ earlier ∈ before, ¬earlier.Matches target) →
      (before ++ [rule] ++ after).plan target = RuleSet.plan [rule] target ∧
      ∃ m : Match, m.rule = rule ∧
        (∃ skipped text rest, target.candidates = skipped ++ text :: rest ∧
          (∀ other ∈ skipped, rule.captures other = none) ∧
          rule.captures text = some m.groups) ∧
        RuleSet.plan [rule] target = .ofMatch m target.query ∧
        ((before ++ [rule] ++ after).plan target = .passThrough ↔ m.Unusable)) ∧
    (∀ rules : RuleSet, (∀ rule ∈ rules, ¬rule.Matches target) →
      rules.plan target = .passThrough) := by
  constructor
  · intro before after rule hmatches hb
    obtain ⟨m, hm⟩ := matchOf_isSome hmatches
    have hall : (before ++ [rule] ++ after).plan target = .ofMatch m target.query := by
      unfold plan
      rw [resolveTarget_first hb hm after]
    have halone : RuleSet.plan [rule] target = .ofMatch m target.query := by
      have hnone : ∀ earlier ∈ ([] : RuleSet), ¬earlier.Matches target := by simp
      have hfirst := resolveTarget_first hnone hm []
      rw [List.nil_append, List.append_nil] at hfirst
      unfold plan
      rw [hfirst]
    obtain ⟨hrule, hcaptures⟩ := matchOf_eq_some_iff.mp hm
    refine ⟨hall.trans halone.symm, m, hrule, hcaptures, halone, ?_⟩
    rw [hall]
    exact Dispatch.ofMatch_eq_passThrough_iff m target.query
  · intro rules h
    unfold plan
    rw [resolveTarget_eq_none h]

end RuleSet

namespace Pattern

/-- The pattern `^`. -/
def textStart : Pattern := ⟨"^", #[.save 0, .look .textStart, .save 1, .accept], 1⟩

/-- The pattern `^$`. -/
def emptyText : Pattern :=
  ⟨"^$", #[.save 0, .look .textStart, .look .textEnd, .save 1, .accept], 1⟩

/-- Every text has a start, which holds nothing. -/
theorem captures_textStart (text : String) : textStart.captures text = some [some ""] := by
  have hs : textStart.slots? text.toList = some #[some 0, some 0] := by
    unfold slots? textStart run
    cases text.toList with
    | nil =>
      simp [follow, advance, Look.holds]
      rfl
    | cons c rest =>
      simp [follow, advance, Look.holds]
      rfl
  rw [captures, hs]
  rfl

/-- A text with a character is not empty. -/
theorem captures_emptyText (c : Char) (cs : List Char) :
    emptyText.captures (String.ofList (c :: cs)) = none := by
  have hlater : ∀ (rest : List Char) (n : Nat) (before : Char),
      run emptyText.program (Array.replicate 2 none) rest n (some before) [] none = none := by
    intro rest
    induction rest with
    | nil =>
      intro n before
      unfold run
      simp [follow, advance, Look.holds, emptyText]
    | cons d rest ih =>
      intro n before
      unfold run
      simp [follow, advance, Look.holds, emptyText]
      exact ih (n + 1) d
  unfold captures slots?
  rw [String.toList_ofList]
  unfold run
  simp [follow, advance, Look.holds, emptyText]
  exact hlater cs 1 c

end Pattern

namespace RuleSet

/-- A rule whose target is neither a path nor a URL decides for a request that an earlier rule does
not match and a later one does. -/
theorem first_match_decides_unusable :
    Rule.compile .redirect "^$" "/home" = .ok ⟨.redirect, .emptyText, "/home"⟩ ∧
    Rule.compile .rewrite "^" "not-a-path" = .ok ⟨.rewrite, .textStart, "not-a-path"⟩ ∧
    RuleSet.plan ([⟨.redirect, .emptyText, "/home"⟩] ++ [⟨.rewrite, .textStart, "not-a-path"⟩] ++
      [⟨.rewrite, .textStart, "/b"⟩]) ⟨none, "", "/a", none⟩ = .passThrough ∧
    RuleSet.plan [⟨.redirect, .emptyText, "/home"⟩] ⟨none, "", "/a", none⟩ = .passThrough := by
  have hc : RequestTarget.candidates ⟨none, "", "/a", none⟩ = [String.ofList ['/', 'a']] := by
    decide +kernel
  have hskip : ∀ earlier ∈ [(⟨.redirect, .emptyText, "/home"⟩ : Rule)],
      ¬earlier.Matches ⟨none, "", "/a", none⟩ := by
    intro earlier hearlier
    rw [List.mem_singleton.mp hearlier]
    rintro ⟨text, htext, hsome⟩
    rw [hc, List.mem_singleton] at htext
    rw [Rule.captures, htext, Pattern.captures_emptyText] at hsome
    cases hsome
  have hmatches : Rule.Matches ⟨.rewrite, .textStart, "not-a-path"⟩ ⟨none, "", "/a", none⟩ := by
    refine ⟨String.ofList ['/', 'a'], by rw [hc]; exact List.mem_cons_self, ?_⟩
    rw [Rule.captures, Pattern.captures_textStart]
    rfl
  obtain ⟨hfirst, hnone⟩ := first_match_decides ⟨none, "", "/a", none⟩
  obtain ⟨-, m, hrule, -, -, hpass⟩ :=
    hfirst [⟨.redirect, .emptyText, "/home"⟩] [⟨.rewrite, .textStart, "/b"⟩] _ hmatches hskip
  refine ⟨rfl, rfl, hpass.mpr ?_, hnone _ hskip⟩
  have htarget : m.target = "not-a-path" := by
    rw [Match.target, hrule]
    rfl
  have hparse : (RequestTarget.parse "not-a-path").toOption =
      some ⟨none, "not-a-path", "", none⟩ := by decide +kernel
  unfold Match.Unusable
  rw [hrule, htarget]
  intro t ht
  rw [ht] at hparse
  cases hparse
  exact ⟨by decide +kernel, rfl⟩

end RuleSet

end PagePreview
