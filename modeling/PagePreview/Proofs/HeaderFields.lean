import PagePreview.Proxy.Forwarding

/-!
# What becomes of header fields

Header fields are looked at name by name: each name has its values in their order. Adding, setting
and stripping fields is told by what it does to the values of each name. Fields that have been
stripped once stay as they are.
-/

namespace PagePreview

namespace Headers

variable {name other : String} {value : Bytes} {hs : Headers} {h : Header}

/-! ## Values of a name -/

/-- The values of a name are those of the fields that have it. -/
theorem mem_values : value ∈ values name hs ↔ ⟨name, value⟩ ∈ hs := by
  unfold values
  rw [List.mem_map]
  constructor
  · rintro ⟨⟨n, v⟩, hfield, rfl⟩
    obtain ⟨hmem, hname⟩ := List.mem_filter.mp hfield
    rw [← eq_of_beq hname]
    exact hmem
  · intro hmem
    exact ⟨_, List.mem_filter.mpr ⟨hmem, beq_self_eq_true name⟩, rfl⟩

/-- The values of fields and of more fields behind them. -/
theorem values_append (name : String) (hs more : Headers) :
    values name (hs ++ more) = values name hs ++ values name more := by
  unfold values
  rw [List.filter_append, List.map_append]

/-- The first value of a name. -/
theorem first?_eq_head? (name : String) (hs : Headers) :
    first? name hs = (values name hs).head? := by
  unfold first? values
  rw [List.head?_map, List.head?_filter]

/-- A name has no values if it has no first one. -/
theorem values_eq_nil_iff : values name hs = [] ↔ first? name hs = none := by
  rw [first?_eq_head?, List.head?_eq_none_iff]

/-! ## Setting -/

/-- Taking a name away leaves the values of every other one. -/
theorem values_without (h : name ≠ other) (hs : Headers) :
    values name (without other hs) = values name hs := by
  unfold values without
  rw [List.filter_filter]
  congr 1
  apply List.filter_congr
  intro field _
  by_cases hfield : field.name = name
  · simp [hfield, h]
  · simp [hfield]

/-- Setting a field leaves the others alone. -/
theorem values_set (h : name ≠ other) (hs : Headers) :
    values name (set other value hs) = values name hs := by
  have hother : (other == name) = false := by simpa using h.symm
  induction hs with
  | nil => simp [set, values, hother]
  | cons field rest ih =>
    unfold set
    by_cases hfield : field.name = other
    · rw [if_pos hfield]
      have hrest := values_without h rest
      unfold values at hrest ⊢
      rw [List.filter_cons, List.filter_cons, hfield, hother]
      exact hrest
    · rw [if_neg hfield]
      unfold values at ih ⊢
      rw [List.filter_cons, List.filter_cons]
      split
      · rw [List.map_cons, List.map_cons, ih]
      · exact ih

/-- A field that is set is the only one with its name. -/
theorem mem_set : h ∈ set name value hs ↔ h = ⟨name, value⟩ ∨ h ∈ hs ∧ h.name ≠ name := by
  induction hs with
  | nil => simp [set]
  | cons field rest ih =>
    unfold set
    by_cases hfield : field.name = name
    · rw [if_pos hfield]
      unfold without
      have hgone : ¬(h = field ∧ h.name ≠ name) := fun ⟨he, hne⟩ => hne (he ▸ hfield)
      rw [List.mem_cons, List.mem_filter, List.mem_cons, bne_iff_ne, or_and_right,
        or_iff_right hgone]
    · rw [if_neg hfield]
      have hstays : h = field ∧ h.name ≠ name ↔ h = field :=
        and_iff_left_of_imp fun he => he ▸ hfield
      rw [List.mem_cons, ih, List.mem_cons, or_and_right, hstays, or_left_comm]

/-- A field that is set is the only one of its name. -/
theorem values_set_self (name : String) (value : Bytes) (hs : Headers) :
    values name (set name value hs) = [value] := by
  induction hs with
  | nil => simp [set, values]
  | cons field rest ih =>
    unfold set
    by_cases hfield : field.name = name
    · rw [if_pos hfield]
      have hnone : values name (without name rest) = [] := by
        rw [List.eq_nil_iff_forall_not_mem]
        intro v hv
        have hmem := mem_values.mp hv
        simp [without] at hmem
      unfold values at hnone ⊢
      rw [List.filter_cons, if_pos (beq_self_eq_true name), List.map_cons, hnone]
    · rw [if_neg hfield]
      unfold values at ih ⊢
      rw [List.filter_cons, if_neg (by simpa using hfield)]
      exact ih

/-- To set a field to the value that it has changes nothing. -/
theorem set_set (name : String) (value : Bytes) (hs : Headers) :
    set name value (set name value hs) = set name value hs := by
  induction hs with
  | nil => simp [set, without]
  | cons field rest ih =>
    by_cases hfield : field.name = name
    · simp [set, hfield, without, List.filter_filter]
    · simp [set, hfield, ih]

/-! ## Stripping -/

/-- The fields that are left are those of one hop neither by name nor by listing. -/
theorem mem_stripHopByHop :
    h ∈ stripHopByHop hs ↔ h ∈ hs ∧ h.name ∉ listedNames hs ∧ h.name ∉ hopByHop := by
  unfold stripHopByHop
  simp only [List.mem_filter, Bool.and_eq_true, Bool.not_eq_true', List.contains_eq_mem,
    decide_eq_false_iff_not]

/-- What is stripped are the fields that are listed, and those that always are. -/
theorem values_stripHopByHop (name : String) (hs : Headers) :
    values name (stripHopByHop hs) =
      if name ∈ listedNames hs ∨ name ∈ hopByHop then [] else values name hs := by
  by_cases hstripped : name ∈ listedNames hs ∨ name ∈ hopByHop
  · rw [if_pos hstripped, List.eq_nil_iff_forall_not_mem]
    intro v hv
    obtain ⟨-, hlisted, halways⟩ := mem_stripHopByHop.mp (mem_values.mp hv)
    exact hstripped.elim hlisted halways
  · rw [if_neg hstripped]
    have hkept := not_or.mp hstripped
    unfold stripHopByHop values
    dsimp only
    rw [List.filter_filter]
    congr 1
    apply List.filter_congr
    intro field _
    by_cases hfield : field.name = name
    · simp [hfield, hkept.1, hkept.2]
    · simp [hfield]

/-- The names that are listed depend on one field only. -/
theorem listedNames_congr {hs hs' : Headers}
    (h : values "connection" hs' = values "connection" hs) : listedNames hs' = listedNames hs := by
  unfold listedNames
  rw [h]

/-- Without fields of one connection there is nothing to strip, and nothing lists any. -/
theorem stripHopByHop_eq_self (hnone : ∀ h ∈ hs, h.name ∉ hopByHop) : stripHopByHop hs = hs := by
  have hunlisted : listedNames hs = [] := by
    have hconnection : "connection" ∈ hopByHop := by decide
    have hvalues : values "connection" hs = values "connection" [] := by
      apply List.eq_nil_iff_forall_not_mem.mpr
      intro value hvalue
      exact hnone _ (mem_values.mp hvalue) hconnection
    rw [listedNames_congr hvalues]
    rfl
  unfold stripHopByHop
  rw [List.filter_eq_self, hunlisted]
  intro h hh
  simpa using hnone h hh

end Headers

end PagePreview
