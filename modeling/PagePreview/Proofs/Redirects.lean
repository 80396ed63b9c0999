import PagePreview.Http.Redirect
import PagePreview.Proofs.Encoding
import PagePreview.Proofs.FirstMatch

/-!
# Where a redirect leads

The location of a redirect is put together from a template and from what a pattern captured, be it
in the target as it was written or in the decoded path, so it may hold any character. Either all its
bytes stand in one header field, as they are, or there is a control character among its characters
and nothing of it is sent. So no line end that a client has written in an encoded form comes into a
header.
-/

namespace PagePreview

/-- A control character of ASCII; the tab, which may stand in a header value, does not count. -/
def IsControl (c : Char) : Prop := (c.toNat < 0x20 ∧ c ≠ '\t') ∨ c.toNat = 0x7F

instance (c : Char) : Decidable (IsControl c) := by
  unfold IsControl
  infer_instance

/-! ## Header values -/

/-- A byte outside ASCII may stand in a header value. -/
theorem isHeaderByte_of_high {b : UInt8} (h : 0x80 ≤ b.toNat) : isHeaderByte b = true := by
  have hb : b.toNat < 256 := b.toNat_lt
  have hlow : (0x20 : UInt8) ≤ b := UInt8.le_iff_toNat_le.mpr (by simp; omega)
  have hdel : b ≠ 0x7F := by
    rintro rfl
    simp at h
  simp [isHeaderByte, hlow, hdel]

/-- Of the ASCII bytes, exactly the control characters are kept out. -/
theorem isHeaderByte_ascii : ∀ n < 128, isHeaderByte (UInt8.ofNat n) = true ↔
    ¬IsControl (Char.ofNat n) := by
  decide +kernel

/-- The bytes of a character may stand in a header value, unless it is a control character. -/
theorem isHeaderValue_utf8EncodeChar (c : Char) :
    isHeaderValue (String.utf8EncodeChar c) = true ↔ ¬IsControl c := by
  obtain ⟨n, hseq, hc⟩ := Utf8.exists_sequence c
  have hn : c.toNat = n := by
    rw [← hc]
    exact Utf8.toNat_val_ofNat hseq.isValidChar
  have hfree : 0x80 ≤ n → ¬IsControl c := by
    intro hhigh hcontrol
    unfold IsControl at hcontrol
    rw [hn] at hcontrol
    omega
  generalize String.utf8EncodeChar c = bytes at hseq
  unfold isHeaderValue
  cases hseq with
  | @one a high =>
    have ha := isHeaderByte_ascii a.toNat high
    rw [UInt8.ofNat_toNat, hc] at ha
    simpa using ha
  | two low high tail =>
    have hlead := isHeaderByte_of_high (Nat.le_trans (by decide) low)
    have hcontrol := hfree (by omega)
    simp [hlead, isHeaderByte_of_high tail.1, hcontrol]
  | three low high tail₁ tail₂ overlong surrogate =>
    have hlead := isHeaderByte_of_high (Nat.le_trans (by decide) low)
    have htail₁ := tail₁.1
    have hcontrol := hfree (by omega)
    simp [hlead, isHeaderByte_of_high htail₁, isHeaderByte_of_high tail₂.1, hcontrol]
  | four low high tail₁ tail₂ tail₃ overlong last =>
    have hlead := isHeaderByte_of_high (Nat.le_trans (by decide) low)
    have htail₁ := tail₁.1
    have hcontrol := hfree (by omega)
    simp [hlead, isHeaderByte_of_high htail₁, isHeaderByte_of_high tail₂.1,
      isHeaderByte_of_high tail₃.1, hcontrol]

/-- A text may stand in a header value exactly if it has no control character. -/
theorem isHeaderValue_encode {text : String} :
    isHeaderValue (Utf8.encode text) = true ↔ ∀ c ∈ text.toList, ¬IsControl c := by
  unfold Utf8.encode
  induction text.toList with
  | nil => simp [isHeaderValue]
  | cons c rest ih =>
    have hcons : isHeaderValue ((c :: rest).flatMap String.utf8EncodeChar) =
        (isHeaderValue (String.utf8EncodeChar c) &&
          isHeaderValue (rest.flatMap String.utf8EncodeChar)) := by
      unfold isHeaderValue
      rw [List.flatMap_cons, List.all_append]
    rw [hcons, Bool.and_eq_true, isHeaderValue_utf8EncodeChar, ih, List.forall_mem_cons]

/-- A header value has no line end. -/
theorem no_line_end_of_isHeaderValue {bytes : Bytes} (h : isHeaderValue bytes = true) :
    0x0D ∉ bytes ∧ 0x0A ∉ bytes := by
  have hall := List.all_eq_true.mp h
  constructor
  · intro hreturn
    exact absurd (hall 0x0D hreturn) (by decide)
  · intro hfeed
    exact absurd (hall 0x0A hfeed) (by decide)

/-! ## The characters of a location -/

namespace Template

/-- A character that stands for itself stands in the template. -/
theorem mem_of_plain_mem_scan {number : Option Nat} {template : List Char} {c : Char}
    (h : .plain c ∈ scan number template) : c ∈ template := by
  fun_induction scan number template <;> grind

/-- A character of a group is one of a text that was captured. -/
theorem mem_groupText {groups : Groups} {n : Nat} {c : Char} (h : c ∈ groupText groups n) :
    ∃ text, some text ∈ groups ∧ c ∈ text.toList := by
  revert h
  fun_cases groupText groups n with
  | case1 text htext => exact fun h => ⟨text, List.mem_of_getElem? htext, h⟩
  | case2 => exact nofun

/-- What is filled in comes from the template or from a group. -/
theorem mem_expand {template : String} {groups : Groups} {c : Char}
    (h : c ∈ (expand template groups).toList) :
    c ∈ template.toList ∨ ∃ text, some text ∈ groups ∧ c ∈ text.toList := by
  unfold expand fill at h
  rw [String.toList_ofList, List.mem_flatMap] at h
  obtain ⟨piece, hpiece, hc⟩ := h
  cases piece with
  | plain d =>
    left
    rw [List.mem_singleton.mp hc]
    exact mem_of_plain_mem_scan hpiece
  | group n =>
    right
    dsimp only at hc
    split at hc
    · exact mem_groupText hc
    · cases hc

end Template

/-- What a pattern captures are characters of the text. -/
theorem Pattern.mem_of_captures {p : Pattern} {text group : String} {groups : Template.Groups}
    (h : p.captures text = some groups) (hgroup : some group ∈ groups) {c : Char}
    (hc : c ∈ group.toList) : c ∈ text.toList := by
  unfold captures at h
  obtain ⟨slots, -, rfl⟩ := Option.map_eq_some_iff.mp h
  obtain ⟨n, -, hn⟩ := List.mem_map.mp hgroup
  unfold groupOf at hn
  split at hn
  · rw [← Option.some.inj hn, between, String.toList_ofList] at hc
    exact List.mem_of_mem_drop (List.mem_of_mem_take hc)
  · cases hn

namespace RuleSet

/-- A redirect takes place: of the rules that match, the first one is a redirect, and the location
is its target with the captured groups filled in. -/
def Redirects (rules : RuleSet) (arrival : RequestTarget) (location : String) : Prop :=
  ∃ before rule after m, rules = before ++ [rule] ++ after ∧
    (∀ earlier ∈ before, ¬earlier.Matches arrival) ∧
    matchOf arrival.candidates rule = some m ∧ rule.action = .redirect ∧
    location = Template.expand rule.target m.groups

/-- What a match decides is a redirect exactly if the rule is one. -/
theorem ofMatch_eq_redirect_iff {m : Match} {query : Option String} {location : String} :
    Dispatch.ofMatch m query = .redirect location ↔
      m.rule.action = .redirect ∧ location = m.target := by
  unfold Dispatch.ofMatch
  cases m.rule.action with
  | redirect => simp [eq_comm]
  | rewrite =>
    dsimp only
    cases rewriteTarget? m.target <;> simp
  | proxy =>
    dsimp only
    cases ProxyTarget.parse m.target query <;> simp

/-- A decision to redirect is a redirect that takes place. -/
theorem plan_eq_redirect_iff {rules : RuleSet} {arrival : RequestTarget} {location : String} :
    rules.plan arrival = .redirect location ↔ rules.Redirects arrival location := by
  constructor
  · intro h
    unfold plan at h
    cases hresolve : rules.resolveTarget arrival with
    | none =>
      rw [hresolve] at h
      cases h
    | some m =>
      rw [hresolve] at h
      obtain ⟨before, rule, after, hrules, hm, hbefore⟩ := List.findSome?_eq_some_iff.mp hresolve
      obtain ⟨haction, hlocation⟩ := ofMatch_eq_redirect_iff.mp h
      obtain ⟨hrule, -⟩ := matchOf_eq_some_iff.mp hm
      rw [Match.target, hrule] at hlocation
      rw [hrule] at haction
      refine ⟨before, rule, after, m, by simpa using hrules, ?_, hm, haction, hlocation⟩
      intro earlier hearlier hmatches
      obtain ⟨other, hother⟩ := matchOf_isSome hmatches
      rw [hbefore earlier hearlier] at hother
      cases hother
  · rintro ⟨before, rule, after, m, rfl, hbefore, hm, haction, hlocation⟩
    obtain ⟨hrule, -⟩ := matchOf_eq_some_iff.mp hm
    unfold plan
    rw [resolveTarget_first hbefore hm after]
    apply ofMatch_eq_redirect_iff.mpr
    rw [Match.target, hrule]
    exact ⟨haction, hlocation⟩

/-- Every character of a location is written in the rule, or stands in one of the texts that the
rule was tested against. -/
theorem Redirects.mem {rules : RuleSet} {arrival : RequestTarget} {location : String}
    (h : rules.Redirects arrival location) {c : Char} (hc : c ∈ location.toList) :
    (∃ rule ∈ rules, rule.action = .redirect ∧ c ∈ rule.target.toList) ∨
      ∃ text ∈ arrival.candidates, c ∈ text.toList := by
  obtain ⟨before, rule, after, m, rfl, -, hm, haction, rfl⟩ := h
  obtain ⟨hrule, skipped, text, rest, hcandidates, -, hcaptures⟩ := matchOf_eq_some_iff.mp hm
  rcases Template.mem_expand hc with htemplate | ⟨group, hgroup, hmem⟩
  · exact .inl ⟨rule, by simp, haction, htemplate⟩
  · refine .inr ⟨text, by simp [hcandidates], ?_⟩
    exact Pattern.mem_of_captures hcaptures hgroup hmem

end RuleSet

/-! ## The answer -/

/-- A redirect that is sent. -/
structure Response.SendsTo (location : String) (x : Response) : Prop where
  /-- The status of a redirect. -/
  status : x.status = 303
  /-- One field with the bytes of the location. -/
  field : Headers.values "location" x.headers = [Utf8.encode location]
  /-- The bytes are read as the location again. -/
  readable : Utf8.decode? (Utf8.encode location) = some location
  /-- The page that comes with it is a page. -/
  mediaType : Headers.values "content-type" x.headers = [Utf8.encode "text/html; charset=utf-8"]
  /-- The page links to the location. -/
  body : x.body = Utf8.encode (Response.redirectPage location)

/-- A redirect that is not sent. -/
structure Response.Refuses (x : Response) : Prop where
  /-- The status of a fault. -/
  status : x.status = 500
  /-- No location. -/
  field : Headers.values "location" x.headers = []
  /-- No page. -/
  body : x.body = []

/-- No answer both sends to a location and refuses one. -/
theorem Response.SendsTo.not_refuses {location : String} {x : Response} (h : x.SendsTo location) :
    ¬x.Refuses := by
  intro hrefuses
  have hstatus := h.status.symm.trans hrefuses.status
  contradiction

/-- A location without control characters is sent to. -/
theorem Response.sendsTo_seeOther {location : String}
    (h : ∀ c ∈ location.toList, ¬IsControl c) : (seeOther location).SendsTo location := by
  have hvalue := isHeaderValue_encode.mpr h
  have hreadable := Utf8.decode?_eq_some_iff.mpr (Eq.refl (Utf8.encode location))
  unfold seeOther
  dsimp only
  rw [if_pos hvalue]
  exact {
    status := rfl
    field := by simp [Headers.values]
    readable := hreadable
    mediaType := by simp [Headers.values]
    body := by dsimp only }

/-- A location with a control character is refused. -/
theorem Response.refuses_seeOther {location : String} {c : Char} (hmem : c ∈ location.toList)
    (hc : IsControl c) : (seeOther location).Refuses := by
  have hvalue : ¬isHeaderValue (Utf8.encode location) = true :=
    fun h => isHeaderValue_encode.mp h c hmem hc
  unfold seeOther
  dsimp only
  rw [if_neg hvalue]
  exact ⟨rfl, rfl, rfl⟩

/-- All fields of a redirect are header values. -/
theorem Response.isHeaderValue_of_mem_seeOther {location : String} {field : Header}
    (h : field ∈ (seeOther location).headers) : isHeaderValue field.value = true := by
  unfold seeOther at h
  dsimp only at h
  by_cases hvalue : isHeaderValue (Utf8.encode location) = true
  · rw [if_pos hvalue] at h
    rcases List.mem_cons.mp h with rfl | h
    · decide +kernel
    · rw [List.mem_singleton.mp h]
      exact hvalue
  · rw [if_neg hvalue] at h
    cases h

/-- A location is filled in from the first rule that matches and from the texts that it was tested
against, and is answered in one of two ways. Either the location comes to the client as it is, in
one field, or it has a control character and the client gets neither a location nor a page. No field
of the answer has a line end. -/
theorem redirect_is_exact_or_refused {rules : RuleSet} {r : Request} {location : String}
    (h : rules.plan r.target = .redirect location) :
    rules.Redirects r.target location ∧
    (∀ c ∈ location.toList,
      (∃ rule ∈ rules, rule.action = .redirect ∧ c ∈ rule.target.toList) ∨
        ∃ text ∈ r.target.candidates, c ∈ text.toList) ∧
    ∃ x, (rules.plan r.target).apply r = .respond x ∧
      (x.SendsTo location ∨ x.Refuses) ∧ ¬(x.SendsTo location ∧ x.Refuses) ∧
      (x.Refuses ↔ ∃ c ∈ location.toList, IsControl c) ∧
      ∀ field ∈ x.headers, 0x0D ∉ field.value ∧ 0x0A ∉ field.value := by
  have happly : (rules.plan r.target).apply r = .respond (.seeOther location) := by
    rw [h]
    rfl
  have hlines : ∀ field ∈ (Response.seeOther location).headers,
      0x0D ∉ field.value ∧ 0x0A ∉ field.value := fun field hfield =>
    no_line_end_of_isHeaderValue (Response.isHeaderValue_of_mem_seeOther hfield)
  have hredirects := RuleSet.plan_eq_redirect_iff.mp h
  refine ⟨hredirects, fun c hc => hredirects.mem hc, _, happly, ?_,
    fun hx => hx.1.not_refuses hx.2, ?_, hlines⟩
  · by_cases hcontrol : ∃ c ∈ location.toList, IsControl c
    · obtain ⟨c, hmem, hc⟩ := hcontrol
      exact .inr (Response.refuses_seeOther hmem hc)
    · exact .inl (Response.sendsTo_seeOther fun c hmem hc => hcontrol ⟨c, hmem, hc⟩)
  · constructor
    · intro hrefuses
      apply Decidable.byContradiction
      intro hcontrol
      exact (Response.sendsTo_seeOther fun c hmem hc => hcontrol ⟨c, hmem, hc⟩).not_refuses hrefuses
    · rintro ⟨c, hmem, hc⟩
      exact Response.refuses_seeOther hmem hc

namespace Pattern

/-- The pattern `(\n)`. -/
def lineFeed : Pattern :=
  ⟨"(\\n)", #[.save 0, .save 2, .take [(10, 10)], .save 3, .save 1, .accept], 2⟩

/-- It finds a line end in a decoded path, but not in the target as it was written. -/
theorem captures_lineFeed :
    lineFeed.captures "/%0A" = none ∧ lineFeed.captures "/\n" = some [some "\n", some "\n"] := by
  have hslash : CharSet.has [(10, 10)] '/' = false := by decide +kernel
  have hpercent : CharSet.has [(10, 10)] '%' = false := by decide +kernel
  have hzero : CharSet.has [(10, 10)] '0' = false := by decide +kernel
  have hten : CharSet.has [(10, 10)] 'A' = false := by decide +kernel
  have hfeed : CharSet.has [(10, 10)] '\n' = true := by decide +kernel
  have hwritten : lineFeed.slots? ['/', '%', '0', 'A'] = none := by
    unfold slots?
    simp [run, follow, advance, lineFeed, hslash, hpercent, hzero, hten]
  have hdecoded : lineFeed.slots? ['/', '\n'] = some #[some 1, some 2, some 1, some 2] := by
    unfold slots?
    simp [run, follow, advance, lineFeed, hslash, hfeed]
    rfl
  constructor
  · change Option.map _ (lineFeed.slots? ['/', '%', '0', 'A']) = none
    rw [hwritten]
    rfl
  · change Option.map _ (lineFeed.slots? ['/', '\n']) = _
    rw [hdecoded]
    decide +kernel

end Pattern

/-- A line end that a client has written as `%0A` is captured from the decoded path and filled in,
and the client gets no location. -/
theorem redirect_is_exact_or_refused_lineFeed :
    RuleSet.plan [⟨.redirect, .lineFeed, "/next$1"⟩] ⟨none, "", "/%0A", none⟩ =
      .redirect "/next\n" ∧
    ∃ x, (RuleSet.plan [⟨.redirect, .lineFeed, "/next$1"⟩] ⟨none, "", "/%0A", none⟩).apply
      ⟨"GET", ⟨none, "", "/%0A", none⟩, [], [], none⟩ = .respond x ∧ x.Refuses := by
  obtain ⟨hwritten, hdecoded⟩ := Pattern.captures_lineFeed
  have hcandidates : RequestTarget.candidates ⟨none, "", "/%0A", none⟩ = ["/%0A", "/\n"] := by
    decide +kernel
  have hexpand : Template.expand "/next$1" [some "\n", some "\n"] = "/next\n" := by decide +kernel
  have hmatch : RuleSet.matchOf (RequestTarget.candidates ⟨none, "", "/%0A", none⟩)
      ⟨.redirect, .lineFeed, "/next$1"⟩ =
        some ⟨⟨.redirect, .lineFeed, "/next$1"⟩, [some "\n", some "\n"]⟩ := by
    apply RuleSet.matchOf_eq_some_iff.mpr
    refine ⟨rfl, ["/%0A"], "/\n", [], hcandidates, ?_, hdecoded⟩
    intro other hother
    rw [List.mem_singleton.mp hother]
    exact hwritten
  have hplan : RuleSet.plan [⟨.redirect, .lineFeed, "/next$1"⟩] ⟨none, "", "/%0A", none⟩ =
      .redirect "/next\n" :=
    RuleSet.plan_eq_redirect_iff.mpr ⟨[], _, [], _, rfl, nofun, hmatch, rfl, hexpand.symm⟩
  have hcontrol : ∃ c ∈ "/next\n".toList, IsControl c := ⟨'\n', by decide +kernel, by decide⟩
  obtain ⟨-, -, x, happly, -, -, hrefuses, -⟩ :=
    redirect_is_exact_or_refused (r := ⟨"GET", ⟨none, "", "/%0A", none⟩, [], [], none⟩) hplan
  exact ⟨hplan, x, happly, hrefuses.mpr hcontrol⟩

end PagePreview
