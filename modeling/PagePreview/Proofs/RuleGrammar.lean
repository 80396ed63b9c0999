import PagePreview.Proofs.RuleSources

/-!
# The grammar of rules

A line is a rule if it is a keyword, a pattern and a target, with white space between them and
perhaps around them, if the pattern compiles, and if the target of a proxy rule is an `http` URL
whatever its placeholders hold. Nothing else is a rule. What has been read can be printed, and is
then read again as it was.
-/

namespace PagePreview

namespace Action

/-- No two actions have keywords that differ in case only. -/
theorem eq_of_sameIgnoringCase {word : String} {a b : Action}
    (ha : Ascii.sameIgnoringCase word a.keyword = true)
    (hb : Ascii.sameIgnoringCase word b.keyword = true) : a = b := by
  have hdiffer : ∀ a b : Action, a.keyword.toList.map Ascii.lower =
      b.keyword.toList.map Ascii.lower → a = b := by
    intro a b
    cases a <;> cases b <;> decide
  unfold Ascii.sameIgnoringCase at ha hb
  rw [beq_iff_eq] at ha hb
  exact hdiffer a b (ha.symm.trans hb)

/-- A word names an action exactly if it is its keyword, up to the case of letters. -/
theorem ofKeyword?_eq_some_iff {word : String} {action : Action} :
    ofKeyword? word = some action ↔ Ascii.sameIgnoringCase word action.keyword = true := by
  unfold ofKeyword?
  constructor
  · intro h
    have hsame := List.find?_some h
    exact hsame
  · intro h
    have hmem : action ∈ all := by cases action <;> decide
    have hsome : (all.find? fun a => Ascii.sameIgnoringCase word a.keyword).isSome :=
      List.find?_isSome.mpr ⟨action, hmem, h⟩
    obtain ⟨found, hfound⟩ := Option.isSome_iff_exists.mp hsome
    have hsame := List.find?_some hfound
    rw [hfound, eq_of_sameIgnoringCase hsame h]

/-- A keyword is a word. -/
theorem isWord_keyword (action : Action) : Text.IsWord action.keyword := by
  cases action <;> decide

end Action

/-- A compiled pattern keeps its text. -/
theorem Pattern.source_of_compile? {source : String} {p : Pattern}
    (h : Pattern.compile? source = some p) : p.source = source := by
  unfold compile? at h
  simp only [Option.bind_eq_bind, Option.bind_eq_some_iff] at h
  obtain ⟨ast, -, ⟨node, flags⟩, -, h⟩ := h
  dsimp only at h
  split at h
  · cases h
    rfl
  · cases h

namespace Rule

/-- A rule is compiled from its own texts, if these are good. -/
theorem compile_eq_some_iff {action : Action} {pattern target : String} {r : Rule} :
    (compile action pattern target).toOption = some r ↔
      r.action = action ∧ r.target = target ∧ Pattern.compile? pattern = some r.pattern ∧
        (action = .proxy → isProxyTemplate target = true) := by
  unfold compile
  cases hp : Pattern.compile? pattern with
  | none => simp [Except.toOption]
  | some compiled =>
    dsimp only
    by_cases hbad : action = .proxy ∧ isProxyTemplate target = false
    · rw [if_pos hbad]
      obtain ⟨rfl, hbad⟩ := hbad
      simp [Except.toOption, hbad]
    · rw [if_neg hbad]
      have hproxy : action = .proxy → isProxyTemplate target = true := by
        intro ha
        by_contra hno
        exact hbad ⟨ha, by simpa using hno⟩
      constructor
      · intro h
        cases h
        exact ⟨rfl, rfl, rfl, hproxy⟩
      · rintro ⟨rfl, rfl, h, -⟩
        cases h
        rfl

/-- A line that is a rule with this action, this pattern and this target. -/
structure IsWritten (line : String) (action : Action) (pattern target : String) : Prop where
  /-- The line is the action's keyword in any mixture of cases, the pattern and the target. -/
  words : ∃ keyword, Ascii.sameIgnoringCase keyword action.keyword = true ∧
    Text.ThreeWords line keyword pattern target
  /-- The pattern compiles. -/
  compiles : ∃ compiled, Pattern.compile? pattern = some compiled
  /-- The target of a proxy rule is an `http` URL whatever its placeholders hold. -/
  proxy : action = .proxy → isProxyTemplate target = true

/-- A line is read as a rule exactly if it is one. -/
theorem ofLine?_eq_some_iff {line : String} {r : Rule} :
    ofLine? line = some r ↔ IsWritten line r.action r.pattern.source r.target ∧
      Pattern.compile? r.pattern.source = some r.pattern := by
  constructor
  · intro h
    revert h
    fun_cases ofLine? line with
    | case1 keyword pattern target hwords action hkeyword =>
      intro h
      obtain ⟨rfl, rfl, hcompiled, hproxy⟩ := compile_eq_some_iff.mp h
      have hsource := Pattern.source_of_compile? hcompiled
      rw [hsource]
      exact ⟨⟨⟨keyword, Action.ofKeyword?_eq_some_iff.mp hkeyword,
        Text.words_eq_three_iff.mp hwords⟩, ⟨_, hcompiled⟩, hproxy⟩, hcompiled⟩
    | case2 => exact nofun
    | case3 => exact nofun
  · rintro ⟨⟨⟨keyword, hkeyword, hwords⟩, -, hproxy⟩, hcompiled⟩
    unfold ofLine?
    rw [Text.words_eq_three_iff.mpr hwords]
    dsimp only
    rw [Action.ofKeyword?_eq_some_iff.mpr hkeyword]
    exact compile_eq_some_iff.mpr ⟨rfl, rfl, hcompiled, hproxy⟩

/-! ## Printing -/

section Printed

variable {line : String} {r : Rule} (h : ofLine? line = some r)
include h

/-- The printed form of a rule is its three words. -/
theorem threeWords_line :
    Text.ThreeWords r.line r.action.keyword r.pattern.source r.target := by
  obtain ⟨⟨⟨keyword, -, -, hpattern, htarget, -⟩, -, -⟩, -⟩ := ofLine?_eq_some_iff.mp h
  have hgap : Text.IsGap " " := ⟨by decide, by decide⟩
  refine ⟨Action.isWord_keyword r.action, hpattern, htarget, "", " ", " ", "", by decide, hgap,
    hgap, by decide, ?_⟩
  rw [String.append_empty, String.empty_append]
  rfl

/-- A rule that has been read is read again from its printed form. -/
theorem ofLine?_line : ofLine? r.line = some r := by
  obtain ⟨⟨-, hcompiles, hproxy⟩, hcompiled⟩ := ofLine?_eq_some_iff.mp h
  refine ofLine?_eq_some_iff.mpr ⟨⟨⟨_, ?_, threeWords_line h⟩, hcompiles, hproxy⟩, hcompiled⟩
  unfold Ascii.sameIgnoringCase
  exact beq_self_eq_true _

/-- The printed form of a rule is one line. -/
theorem newline_not_mem_line : '\n' ∉ r.line.toList := by
  obtain ⟨hkeyword, hpattern, htarget, -⟩ := threeWords_line h
  have hword : ∀ w : String, Text.IsWord w → '\n' ∉ w.toList := by
    intro w hw hmem
    exact absurd (hw.not_blank _ hmem) (by decide)
  unfold Rule.line
  simp [hword _ hkeyword, hword _ hpattern, hword _ htarget]

end Printed

end Rule

namespace RuleSet

/-- The printed form of rules: each on a line of its own. -/
def print (rules : RuleSet) : String := String.join (rules.map fun r => r.line ++ "\n")

/-- Rules that have been read are read again from their printed form. -/
theorem ofSource_print {rules : RuleSet} (h : ∀ r ∈ rules, ∃ line, Rule.ofLine? line = some r) :
    ofSource rules.print = rules := by
  induction rules with
  | nil => rfl
  | cons r rest ih =>
    obtain ⟨line, hr⟩ := h r List.mem_cons_self
    have hrest := ih fun other hother => h other (List.mem_cons_of_mem r hother)
    have hprint : print (r :: rest) = r.line ++ "\n" ++ print rest := by
      unfold print
      rw [List.map_cons, String.join_cons]
    rw [hprint, ofSource_append_newline, ofSource_line (Rule.newline_not_mem_line hr),
      Rule.ofLine?_line hr, hrest]
    rfl

/-- Every rule of some sources stands on a line. -/
theorem exists_line_of_mem_ofSources {sources : List String} {r : Rule}
    (h : r ∈ ofSources sources) : ∃ line, Rule.ofLine? line = some r := by
  obtain ⟨source, -, hr⟩ := List.mem_flatMap.mp h
  obtain ⟨line, -, hline⟩ := List.mem_filterMap.mp hr
  exact ⟨line, hline⟩

/-- A line is read as a rule exactly if it is written as one, and as the rule that it is written
as; and the rules of any sources are read again, in their order, from their printed form. -/
theorem rules_are_read_as_written :
    (∀ (line : String) (r : Rule), Rule.ofLine? line = some r ↔
      Rule.IsWritten line r.action r.pattern.source r.target ∧
        Pattern.compile? r.pattern.source = some r.pattern) ∧
    (∀ (line : String) (action : Action) (pattern target : String),
      Rule.IsWritten line action pattern target ↔ ∃ r, Rule.ofLine? line = some r ∧
        r.action = action ∧ r.pattern.source = pattern ∧ r.target = target) ∧
    (∀ sources : List String, ofSources [(ofSources sources).print] = ofSources sources) := by
  refine ⟨fun line r => Rule.ofLine?_eq_some_iff, ?_, ?_⟩
  · intro line action pattern target
    constructor
    · intro h
      obtain ⟨compiled, hcompiled⟩ := h.compiles
      have hsource := Pattern.source_of_compile? hcompiled
      refine ⟨⟨action, compiled, target⟩, Rule.ofLine?_eq_some_iff.mpr ?_, rfl, hsource, rfl⟩
      dsimp only
      rw [hsource]
      exact ⟨h, hcompiled⟩
    · rintro ⟨r, hr, rfl, rfl, rfl⟩
      exact (Rule.ofLine?_eq_some_iff.mp hr).1
  · intro sources
    rw [ofSources_singleton]
    exact ofSource_print fun r hr => exists_line_of_mem_ofSources hr

example :
    (Rule.ofLine? "\u2003ReWrite\t^\u00A0/a\u3000").map Rule.line = some "rewrite ^ /a" ∧
    (Rule.ofLine? "rewrite ^/a").map Rule.line = none ∧
    (Rule.ofLine? "proxy ^ /a").map Rule.line = none := by
  decide +kernel

end RuleSet

end PagePreview
