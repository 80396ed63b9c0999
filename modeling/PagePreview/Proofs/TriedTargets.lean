import PagePreview.Proofs.TargetParts
import PagePreview.Proofs.TemplateParts

/-!
# Targets that are tried when a rule is compiled

The target of a proxy rule is tried once, with a digit for each placeholder, and again for each
request, with what the groups hold. Where no digit follows a dollar sign both are the target itself,
so it is judged once and for all.
-/

namespace PagePreview

namespace Template

/-- No dollar sign has a digit after it. -/
def IsFixed (template : String) : Prop :=
  template.toList.IsChain fun c d => c = '$' → Ascii.isDigit d = false

instance (template : String) : Decidable (IsFixed template) :=
  inferInstanceAs (Decidable (List.IsChain _ _))

/-- A template without placeholders stands for itself. -/
theorem fill_of_isFixed {template : String} (h : IsFixed template) (text : Nat → List Char) :
    fill template text = template := by
  have hpieces : pieces template.toList = template.toList.map .plain := by
    have hscan := scan_literal h fun _ => endsRun_nil
    rw [List.append_nil] at hscan
    exact hscan.trans (List.append_nil _)
  rw [fill_eq, hpieces, flatMap_filled_plain, String.ofList_toList]

end Template

namespace Rule

/-- The target that a template is tried with. -/
def probe (template : String) : String := Template.fill template fun _ => ['0']

/-- A template is kept exactly if what it is tried with is read as a target. -/
theorem isProxyTemplate_iff (template : String) (inbound : Option String) :
    isProxyTemplate template = true ↔
      ∃ t, ProxyTarget.parse (probe template) inbound = .ok t := by
  rw [ProxyTarget.exists_parse_iff]
  unfold isProxyTemplate probe
  cases hurl : WebUrl.parse? (Template.fill template fun _ => ['0']) with
  | none => simp
  | some url =>
    simp only [Bool.and_eq_true, beq_iff_eq, Option.some.injEq, exists_eq_left',
      and_iff_left_iff_imp]
    intro hscheme
    obtain ⟨host, hhost, -⟩ := (WebUrl.httpWritten_of_parse? hurl hscheme).host
    rw [hhost]
    rfl

section Compile

variable {pattern template : String} {compiled : Pattern} {r : Rule}

/-- A proxy rule that is compiled has its own template, and this was kept. -/
theorem kept_of_compile (h : compile .proxy pattern template = .ok r) :
    isProxyTemplate template = true ∧ r.action = .proxy ∧ r.target = template := by
  revert h
  fun_cases compile .proxy pattern template with
  | case1 => exact nofun
  | case2 => exact nofun
  | case3 _ _ hkept =>
    intro h
    cases h
    exact ⟨by simpa using hkept, rfl, rfl⟩

/-- A rule is refused for its target only if the trial fails. -/
theorem dropped_of_compile
    (h : compile .proxy pattern template = .error (.invalidProxyTarget template)) :
    isProxyTemplate template = false := by
  revert h
  fun_cases compile .proxy pattern template with
  | case1 => exact nofun
  | case2 _ _ hdropped => exact fun _ => hdropped.2
  | case3 => exact nofun

/-- A proxy rule with a good pattern is compiled exactly if its template is kept. -/
theorem compile_proxy_isOk_iff (hp : Pattern.compile? pattern = some compiled) :
    (∃ r, compile .proxy pattern template = .ok r) ↔ isProxyTemplate template = true := by
  constructor
  · rintro ⟨r, hr⟩
    exact (kept_of_compile hr).1
  · intro hkept
    refine ⟨⟨.proxy, compiled, template⟩, ?_⟩
    unfold compile
    rw [hp, hkept]
    rfl

/-- Where the pattern compiles, the trial decides. -/
theorem compile_proxy_eq_invalid_iff (hp : Pattern.compile? pattern = some compiled) :
    compile .proxy pattern template = .error (.invalidProxyTarget template) ↔
      isProxyTemplate template = false := by
  refine ⟨dropped_of_compile, fun hdropped => ?_⟩
  unfold compile
  rw [hp, hdropped]
  rfl

end Compile

end Rule

/-! ## Targets without placeholders -/

/-- What is planned for a match of a proxy rule with a target that is read. -/
theorem RuleSet.plan_of_proxy {rules : RuleSet} {arrival : RequestTarget} {m : Match}
    {t : ProxyTarget} (hm : resolveTarget rules arrival = some m) (haction : m.rule.action = .proxy)
    (ht : ProxyTarget.parse m.target arrival.query = .ok t) : rules.plan arrival = .proxy t := by
  unfold plan
  rw [hm]
  dsimp only
  unfold Dispatch.ofMatch
  rw [haction]
  dsimp only
  rw [ht]

/-- A target without placeholders is judged once. If it is kept, every request that its rule is the
first one to match is forwarded to it, at its own origin and path; if it is dropped, it would not be
read as a target for any groups and any query. -/
theorem fixed_target_is_judged_once {target : String} (hfixed : Template.IsFixed target)
    (pattern : String) :
    (∀ r, Rule.compile .proxy pattern target = .ok r →
      ∃ url, WebUrl.parse? target = some url ∧ url.scheme = "http" ∧
        ∀ (rules : RuleSet) (arrival : RequestTarget) (m : Match),
          RuleSet.resolveTarget rules arrival = some m → m.rule = r →
            ∃ t, rules.plan arrival = .proxy t ∧ t.origin = url.origin ∧ t.path = url.path.text ∧
              ProxyTarget.parse target arrival.query = .ok t) ∧
    (Rule.compile .proxy pattern target = .error (.invalidProxyTarget target) →
      ∀ (groups : Template.Groups) (query : Option String),
        ∃ e, ProxyTarget.parse (Template.expand target groups) query = .error e) := by
  have hexpand : ∀ groups, Template.expand target groups = target :=
    fun groups => Template.fill_of_isFixed hfixed _
  have hread : ∀ query,
      Rule.isProxyTemplate target = true ↔ ∃ t, ProxyTarget.parse target query = .ok t := by
    intro query
    have hprobe : Rule.probe target = target := Template.fill_of_isFixed hfixed _
    rw [Rule.isProxyTemplate_iff target query, hprobe]
  constructor
  · intro r hr
    obtain ⟨hkept, haction, htarget⟩ := Rule.kept_of_compile hr
    obtain ⟨url, hurl, hscheme⟩ :=
      (ProxyTarget.exists_parse_iff target none).mp ((hread none).mp hkept)
    refine ⟨url, hurl, hscheme, fun rules arrival m hm hrule => ?_⟩
    obtain ⟨t, ht⟩ := (hread arrival.query).mp hkept
    have hplanned : m.target = target := by
      unfold Match.target
      rw [hrule, htarget, hexpand]
    obtain ⟨own, host, hown, -, -, rfl⟩ := ProxyTarget.exists_url_of_parse ht
    obtain rfl := Option.some.inj (hurl.symm.trans hown)
    exact ⟨_, RuleSet.plan_of_proxy hm (by rw [hrule, haction]) (by rw [hplanned, ht]), rfl, rfl,
      ht⟩
  · intro hdropped groups query
    rw [hexpand]
    cases ht : ProxyTarget.parse target query with
    | error e => exact ⟨e, rfl⟩
    | ok t =>
      have hkept := (hread query).mpr ⟨t, ht⟩
      rw [Rule.dropped_of_compile hdropped] at hkept
      cases hkept

/-- A dollar sign without a digit after it belongs to the path, also as the last character. -/
theorem fixed_target_is_judged_once_dollars :
    Template.IsFixed "http://[::1]:3000/$/a$" ∧
    Rule.compile .proxy "^" "http://[::1]:3000/$/a$" =
      .ok ⟨.proxy, .textStart, "http://[::1]:3000/$/a$"⟩ ∧
    ∃ t, RuleSet.plan [⟨.proxy, .textStart, "http://[::1]:3000/$/a$"⟩] ⟨none, "", "/", some "x=1"⟩ =
        .proxy t ∧ t.origin = "http://[::1]:3000" ∧ t.path = "/$/a$" := by
  have hfixed : Template.IsFixed "http://[::1]:3000/$/a$" := by decide
  have hcompiled : Rule.compile .proxy "^" "http://[::1]:3000/$/a$" =
      .ok ⟨.proxy, .textStart, "http://[::1]:3000/$/a$"⟩ := by rfl
  have hurl : WebUrl.parse? "http://[::1]:3000/$/a$" =
      some ⟨"http", some (.ipv6 [0, 0, 0, 0, 0, 0, 0, 1]), some 3000, .segments ["$", "a$"], none,
        none⟩ := by decide +kernel
  obtain ⟨url, hread, -, hplanned⟩ := (fixed_target_is_judged_once hfixed "^").1 _ hcompiled
  obtain rfl := Option.some.inj (hurl.symm.trans hread)
  obtain ⟨t, hplan, horigin, hpath, -⟩ := hplanned _ ⟨none, "", "/", some "x=1"⟩ _
    (RuleSet.resolveTarget_textStart _ _ _) rfl
  exact ⟨hfixed, hcompiled, t, hplan, horigin.trans (by decide +kernel),
    hpath.trans (by decide +kernel)⟩

end PagePreview
