import PagePreview.Json.Merge
import PagePreview.Proofs.OrderedMembers
import PagePreview.Server.Stages

/-!
# Values laid over page data

One object laid over another is an object again. It has the keys of both, and at each key what the
upper object holds there, or else what the lower one does. An object is known by what it holds at
each key, so the laws of the merge are those of the choice at one key. They give that objects laid
over page data one after another are one object laid over it.
-/

namespace PagePreview.Json

/-! ## Members over members -/

namespace Members

variable {base top upper : Members} {key : String} {value : Json}

/-- These members are those of `top` laid over those of `base`: the keys are the keys of both, each
once, and a member of `base` is kept, as it is, only where `top` has no member of that key. -/
structure LaidOver (base top merged : Members) : Prop where
  /-- No key stands twice. -/
  keys_nodup : (merged.map Prod.fst).Nodup
  /-- The keys are the keys of both. -/
  mem_keys_iff (key : String) :
    key ∈ merged.map Prod.fst ↔ key ∈ base.map Prod.fst ∨ key ∈ top.map Prod.fst
  /-- The members are those of `top`, and those of `base` with another key. -/
  mem_iff (key : String) (value : Json) :
    (key, value) ∈ merged ↔
      (key, value) ∈ top ∨ key ∉ top.map Prod.fst ∧ (key, value) ∈ base

/-- Members laid over others in order are in order. -/
theorem sorted_merge (hbase : base.Sorted) (top : Members) : (merge base top).Sorted := by
  induction top generalizing base with
  | nil => exact hbase
  | cons p rest ih => exact ih (sorted_insert p.1 p.2 hbase)

/-- At each key stands what the upper members hold there, or else what the lower ones do. -/
theorem get?_merge (base : Members) (htop : top.Sorted) (key : String) :
    get? key (merge base top) = (get? key top).or (get? key base) := by
  induction top generalizing base with
  | nil => rfl
  | cons p rest ih =>
    obtain ⟨k, v⟩ := p
    obtain ⟨hfirst, hrest⟩ := List.pairwise_cons.mp htop
    have hstep : get? key (merge base ((k, v) :: rest)) =
        (get? key rest).or (if key = k then some v else get? key base) := by
      rw [← get?_insert]
      exact ih (insert k v base) hrest
    rw [hstep, get?_cons]
    by_cases hkey : key = k
    · -- The keys ascend, so no later member takes the place of this one.
      subst hkey
      have hnone : get? key rest = none := by
        refine get?_eq_none_iff.mpr fun hmem => ?_
        obtain ⟨p, hp, rfl⟩ := List.mem_map.mp hmem
        exact String.lt_irrefl p.1 (hfirst p hp)
      rw [if_pos rfl, if_pos rfl, hnone]
      rfl
    · rw [if_neg hkey, if_neg hkey]

/-- Every member is one of those below or of those above. -/
theorem mem_of_mem_merge {p : String × Json} (hp : p ∈ merge base top) : p ∈ base ∨ p ∈ top := by
  induction top generalizing base with
  | nil => exact .inl hp
  | cons q rest ih =>
    rcases ih hp with h | h
    · rcases mem_insert h with rfl | h
      · exact .inr List.mem_cons_self
      · exact .inl h
    · exact .inr (List.mem_cons_of_mem _ h)

/-- Of two objects the keys are those of both, and the upper one covers the lower one. -/
theorem laidOver_merge (hbase : base.Sorted) (htop : top.Sorted) :
    LaidOver base top (merge base top) := by
  have hsorted := sorted_merge hbase top
  refine ⟨hsorted.nodup_keys, fun key => ?_, fun key value => ?_⟩
  · simp only [← get?_isSome_iff, get?_merge base htop key, Option.isSome_or, Bool.or_eq_true]
    exact or_comm
  · rw [← hsorted.get?_eq_some_iff, ← htop.get?_eq_some_iff, ← hbase.get?_eq_some_iff,
      get?_merge base htop key, Option.or_eq_some_iff, get?_eq_none_iff]

/-- Members laid over none stand alone. -/
theorem merge_nil_left (htop : top.Sorted) : merge [] top = top :=
  (sorted_merge .nil top).ext htop fun key => by rw [get?_merge [] htop, get?_nil, Option.or_none]

/-- Members laid over themselves are unchanged. -/
theorem merge_self (htop : top.Sorted) : merge top top = top :=
  (sorted_merge htop top).ext htop fun key => by rw [get?_merge top htop, Option.or_self]

/-- Members are laid over each other in either grouping. -/
theorem merge_assoc (hbase : base.Sorted) (htop : top.Sorted) (hupper : upper.Sorted) :
    merge (merge base top) upper = merge base (merge top upper) := by
  refine (sorted_merge (sorted_merge hbase top) upper).ext (sorted_merge hbase _) fun key => ?_
  rw [get?_merge _ hupper, get?_merge _ htop, get?_merge _ (sorted_merge htop upper),
    get?_merge _ hupper, Option.or_assoc]

end Members

/-! ## Values over values -/

variable {data locals more : Json}

/-- The value is an object. -/
def isObject : Json → Bool
  | .obj _ => true
  | _ => false

/-- A value is an object if it is one of some members. -/
theorem isObject_iff : data.isObject ↔ ∃ members, data = .obj members := by
  cases data <;> simp [isObject]

/-- Unless both are objects, the upper value stands alone. -/
theorem mergeLocals_of_not_isObject (h : ¬(data.isObject ∧ locals.isObject)) :
    mergeLocals data locals = locals := by
  unfold mergeLocals
  split
  · exact absurd ⟨rfl, rfl⟩ h
  · rfl

/-- The members of an ordered object are in order. -/
theorem Ordered.sorted {members : Members} (h : Ordered (.obj members)) : members.Sorted := by
  cases h with
  | obj hsorted _ => exact hsorted

/-- One ordered value laid over another is ordered. -/
theorem Ordered.mergeLocals (hdata : data.Ordered) (hlocals : locals.Ordered) :
    (mergeLocals data locals).Ordered := by
  unfold Json.mergeLocals
  split
  · cases hdata with
    | obj hbase hmembers =>
      cases hlocals with
      | obj _ hmembers' =>
        refine .obj (Members.sorted_merge hbase _) fun p hp => ?_
        exact (Members.mem_of_mem_merge hp).elim (hmembers p) (hmembers' p)
  · exact hlocals

/-- Values are laid over each other in either grouping, unless the middle one alone is no object:
then what it covers in the one grouping shows again in the other. -/
theorem mergeLocals_assoc (hdata : data.Ordered) (hlocals : locals.Ordered) (hmore : more.Ordered)
    (hmiddle : data.isObject → more.isObject → locals.isObject) :
    mergeLocals (mergeLocals data locals) more = mergeLocals data (mergeLocals locals more) := by
  by_cases hl : locals.isObject
  · by_cases hm : more.isObject
    · by_cases hd : data.isObject
      · obtain ⟨base, rfl⟩ := isObject_iff.mp hd
        obtain ⟨top, rfl⟩ := isObject_iff.mp hl
        obtain ⟨upper, rfl⟩ := isObject_iff.mp hm
        exact congrArg Json.obj (Members.merge_assoc hdata.sorted hlocals.sorted hmore.sorted)
      · rw [mergeLocals_of_not_isObject fun h => hd h.1,
          mergeLocals_of_not_isObject fun h => hd h.1]
    · have hkept : ∀ below, mergeLocals below more = more := fun _ =>
        mergeLocals_of_not_isObject fun h => hm h.2
      rw [hkept, hkept, hkept]
  · have hcovered : mergeLocals data locals = locals :=
      mergeLocals_of_not_isObject fun h => hl h.2
    have hkept : mergeLocals locals more = more := mergeLocals_of_not_isObject fun h => hl h.1
    rw [hcovered, hkept, mergeLocals_of_not_isObject fun h => hl (hmiddle h.1 h.2)]

/-- An object laid over an object is an object. -/
theorem isObject_mergeLocals (hdata : data.isObject) (hlocals : locals.isObject) :
    (mergeLocals data locals).isObject := by
  obtain ⟨base, rfl⟩ := isObject_iff.mp hdata
  obtain ⟨top, rfl⟩ := isObject_iff.mp hlocals
  rfl

/-- Objects laid over a value one after another are one object laid over it. -/
theorem foldl_mergeLocals (hdata : data.Ordered) (hlocals : locals.Ordered)
    (hobject : locals.isObject) (rest : List Json) (hrest : ∀ v ∈ rest, v.Ordered ∧ v.isObject) :
    rest.foldl mergeLocals (mergeLocals data locals) =
      mergeLocals data (rest.foldl mergeLocals locals) := by
  induction rest generalizing locals with
  | nil => rfl
  | cons more rest ih =>
    obtain ⟨⟨hmore, hmoreObject⟩, hrest⟩ := List.forall_mem_cons.mp hrest
    rw [List.foldl_cons, List.foldl_cons,
      mergeLocals_assoc hdata hlocals hmore fun _ _ => hobject]
    exact ih (hlocals.mergeLocals hmore) (isObject_mergeLocals hobject hmoreObject) hrest

/-- Every value laid over page data covers it member by member. Two objects make the object that
has the keys of both, each once, with the members of the upper one and those of the lower one that
it has no key for; an object inside is one member, and is replaced whole. When one of the two is no
object, the upper one stands alone.

So an object is unchanged by an object without members, above or below it, and by itself. Objects
laid over the data one after another are laid over each other first with the same result, and the
grouping matters in no other case than that of a value without members between two objects. -/
theorem locals_cover_data_by_key (data locals : Json) (hdata : data.Ordered)
    (hlocals : locals.Ordered) :
    (mergeLocals data locals).Ordered ∧
    (∀ base top, data = .obj base → locals = .obj top →
      ∃ merged, mergeLocals data locals = .obj merged ∧ Members.LaidOver base top merged) ∧
    (¬(data.isObject ∧ locals.isObject) → mergeLocals data locals = locals) ∧
    (data.isObject → mergeLocals data empty = data ∧ mergeLocals empty data = data ∧
      mergeLocals data data = data) ∧
    (∀ more : Json, more.Ordered → (data.isObject → more.isObject → locals.isObject) →
      mergeLocals (mergeLocals data locals) more = mergeLocals data (mergeLocals locals more)) ∧
    (¬locals.isObject → ∀ more : Json, mergeLocals (mergeLocals data locals) more = more ∧
      mergeLocals data (mergeLocals locals more) = mergeLocals data more) ∧
    (locals.isObject → ∀ rest : List Json, (∀ v ∈ rest, v.Ordered ∧ v.isObject) →
      rest.foldl mergeLocals (mergeLocals data locals) =
        mergeLocals data (rest.foldl mergeLocals locals)) := by
  refine ⟨hdata.mergeLocals hlocals, ?objects, mergeLocals_of_not_isObject, ?laws,
    fun more hmore => mergeLocals_assoc hdata hlocals hmore, ?middle,
    fun hobject => foldl_mergeLocals hdata hlocals hobject⟩
  case objects =>
    rintro base top rfl rfl
    exact ⟨_, rfl, Members.laidOver_merge hdata.sorted hlocals.sorted⟩
  case laws =>
    intro hobject
    obtain ⟨base, rfl⟩ := isObject_iff.mp hobject
    exact ⟨rfl, congrArg Json.obj (Members.merge_nil_left hdata.sorted),
      congrArg Json.obj (Members.merge_self hdata.sorted)⟩
  case middle =>
    intro hl more
    have hcovered : mergeLocals data locals = locals :=
      mergeLocals_of_not_isObject fun h => hl h.2
    have hkept : mergeLocals locals more = more := mergeLocals_of_not_isObject fun h => hl h.1
    rw [hcovered, hkept]
    exact ⟨rfl, rfl⟩

/-- A fixture, and what a script lays over it: the object inside is replaced whole. -/
theorem locals_cover_data_by_key_nested :
    let base : Members := [("items", .arr [.int 1, .int 2]), ("nested", .obj [("a", .int 1)])]
    let top : Members := [("nested", .obj [("b", .int 2)]), ("title", .str "script")]
    let merged : Members :=
      [("items", .arr [.int 1, .int 2]), ("nested", .obj [("b", .int 2)]), ("title", .str "script")]
    Ordered (.obj base) ∧ Ordered (.obj top) ∧
      mergeLocals (.obj base) (.obj top) = .obj merged ∧ Members.LaidOver base top merged := by
  intro base top merged
  have hitems : Ordered (.arr [.int 1, .int 2]) :=
    .arr (List.forall_mem_cons.mpr ⟨.int 1, List.forall_mem_singleton.mpr (.int 2)⟩)
  have hbase : Ordered (.obj base) :=
    (ordered_empty.insert "nested" (ordered_empty.insert "a" (.int 1))).insert "items" hitems
  have htop : Ordered (.obj top) :=
    (ordered_empty.insert "nested" (ordered_empty.insert "b" (.int 2))).insert
      "title" (.str "script")
  have hmerged : mergeLocals (.obj base) (.obj top) = .obj merged := rfl
  obtain ⟨-, hobjects, -⟩ := locals_cover_data_by_key (.obj base) (.obj top) hbase htop
  obtain ⟨m, hm, hlaid⟩ := hobjects base top rfl rfl
  cases hmerged.symm.trans hm
  exact ⟨hbase, htop, hmerged, hlaid⟩

/-! ## The data of a page -/

/-- The value in a data file is ordered. -/
theorem ordered_loadJson (disk : Disk) (path : String) : (Fixture.loadJson disk path).Ordered := by
  unfold Fixture.loadJson
  cases h : ((disk.readText path).toOption).bind parse? with
  | none => exact ordered_empty
  | some v =>
    obtain ⟨text, -, hread⟩ := Option.bind_eq_some_iff.mp h
    exact ordered_of_parse? hread

/-- A page is rendered with ordered data, if what its data script adds is ordered. -/
theorem ordered_pageData (site : Site) (page : PageRef) (r : Request)
    (hscripts : ∀ handler, site.hooks.pageData = some handler → ∀ script data locals,
      handler script r data = some locals → locals.Ordered) :
    (site.pageData page r).value.Ordered := by
  have hfixture : (site.pageFixture page).value.Ordered := by
    unfold Site.pageFixture
    rw [Traced.value_bind]
    split
    · exact ordered_loadJson _ _
    · exact ordered_empty
  unfold Site.pageData
  rw [Traced.value_bind]
  cases hhandler : site.hooks.pageData with
  | none => exact hfixture
  | some handler =>
    dsimp only
    rw [Traced.value_bind]
    cases (site.findData page.scriptName).value with
    | none => exact hfixture
    | some script =>
      dsimp only
      rw [Traced.value_bind]
      cases hlocals : handler script r (site.pageFixture page).value with
      | none => exact hfixture
      | some locals =>
        exact hfixture.mergeLocals (hscripts handler hhandler script _ locals hlocals)

end PagePreview.Json
