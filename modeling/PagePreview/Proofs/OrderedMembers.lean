import Mathlib.Data.List.Sort
import PagePreview.Json.Parser

/-!
# Objects with their members in order

The members of an object stand in the order of their keys, each key once. Then an object is known
by what it holds at each key. Every value that is read from a text is ordered in this way at every
depth.
-/

namespace PagePreview.Json

namespace Members

/-- The keys ascend, so that each stands once. -/
def Sorted (members : Members) : Prop := members.Pairwise fun p q => p.1 < q.1

variable {members other : Members} {key : String} {value : Json}

/-- Ascending keys are distinct. -/
theorem Sorted.nodup_keys (h : members.Sorted) : (members.map Prod.fst).Nodup :=
  List.pairwise_map.mpr (h.imp fun {p q} hlt (heq : p.1 = q.1) =>
    String.lt_irrefl q.1 (heq ▸ hlt))

/-! ## Looking up -/

/-- Without members there is no value at any key. -/
@[simp]
theorem get?_nil (key : String) : get? key [] = none := rfl

/-- The first member of a key holds its value. -/
theorem get?_cons (key k : String) (v : Json) (rest : Members) :
    get? key ((k, v) :: rest) = if key = k then some v else get? key rest := rfl

/-- There is a value at the keys of the members, and nowhere else. -/
theorem get?_isSome_iff : (get? key members).isSome ↔ key ∈ members.map Prod.fst := by
  induction members with
  | nil => simp
  | cons p rest ih =>
    obtain ⟨k, v⟩ := p
    rw [get?_cons]
    by_cases hkey : key = k
    · simp [hkey]
    · simp [ih, hkey]

/-- There is no value at a key that no member has. -/
theorem get?_eq_none_iff : get? key members = none ↔ key ∉ members.map Prod.fst := by
  rw [← get?_isSome_iff, Bool.not_eq_true, Option.isSome_eq_false_iff, Option.isNone_iff_eq_none]

/-- A value that is found is that of a member. -/
theorem mem_of_get? (h : get? key members = some value) : (key, value) ∈ members := by
  induction members with
  | nil => cases h
  | cons p rest ih =>
    obtain ⟨k, v⟩ := p
    rw [get?_cons] at h
    by_cases hkey : key = k
    · rw [if_pos hkey] at h
      cases h
      rw [hkey]
      exact List.mem_cons_self
    · rw [if_neg hkey] at h
      exact List.mem_cons_of_mem _ (ih h)

/-- Among members in order, the value of each is found at its key. -/
theorem get?_of_mem (hs : members.Sorted) (h : (key, value) ∈ members) :
    get? key members = some value := by
  induction members with
  | nil => cases h
  | cons p rest ih =>
    obtain ⟨k, v⟩ := p
    obtain ⟨hfirst, hrest⟩ := List.pairwise_cons.mp hs
    rw [get?_cons]
    rcases List.mem_cons.mp h with heq | hmem
    · cases heq
      exact if_pos rfl
    · have hlt : k < key := hfirst (key, value) hmem
      have hne : key ≠ k := fun heq => String.lt_irrefl k (heq ▸ hlt)
      rw [if_neg hne, ih hrest hmem]

/-- Among members in order, what is found at a key is what the member of that key holds. -/
theorem Sorted.get?_eq_some_iff (hs : members.Sorted) :
    get? key members = some value ↔ (key, value) ∈ members :=
  ⟨mem_of_get?, get?_of_mem hs⟩

/-- Objects that hold the same at each key are the same. -/
theorem Sorted.ext (hm : members.Sorted) (ho : other.Sorted)
    (h : ∀ key, get? key members = get? key other) : members = other := by
  have hmem : ∀ p : String × Json, p ∈ members ↔ p ∈ other := fun ⟨key, value⟩ => by
    rw [← hm.get?_eq_some_iff, ← ho.get?_eq_some_iff, h key]
  have hperm : members.Perm other :=
    (List.perm_ext_iff_of_nodup hm.nodup_keys.of_map ho.nodup_keys.of_map).mpr hmem
  exact hperm.eq_of_pairwise (fun p q _ _ hpq hqp => absurd hqp (String.lt_asymm hpq)) hm ho

/-! ## Putting in -/

/-- A member put in is found at its key, and changes nothing at another. -/
theorem get?_insert (members : Members) (k : String) (v : Json) (key : String) :
    get? key (insert k v members) = if key = k then some v else get? key members := by
  induction members with
  | nil => rfl
  | cons p rest ih =>
    obtain ⟨k', v'⟩ := p
    unfold insert
    by_cases hsame : k = k'
    · subst hsame
      rw [if_pos rfl, get?_cons, get?_cons]
      split <;> rfl
    · rw [if_neg hsame]
      split
      · rfl
      · rw [get?_cons, get?_cons, ih]
        by_cases hkey : key = k
        · subst hkey
          rw [if_neg hsame, if_pos rfl, if_pos rfl]
        · rw [if_neg hkey, if_neg hkey]

/-- Nothing comes in but the member that is put in. -/
theorem mem_insert {p : String × Json} (h : p ∈ insert key value members) :
    p = (key, value) ∨ p ∈ members := by
  induction members with
  | nil => exact .inl (List.mem_singleton.mp h)
  | cons q rest ih =>
    obtain ⟨k, v⟩ := q
    unfold insert at h
    split at h
    · rcases List.mem_cons.mp h with hp | hp
      · exact .inl hp
      · exact .inr (List.mem_cons_of_mem _ hp)
    · split at h
      · rcases List.mem_cons.mp h with hp | hp
        · exact .inl hp
        · exact .inr hp
      · rcases List.mem_cons.mp h with hp | hp
        · exact .inr (hp ▸ List.mem_cons_self)
        · exact (ih hp).imp_right (List.mem_cons_of_mem _)

/-- A member is put in at its place. -/
theorem sorted_insert (key : String) (value : Json) (h : members.Sorted) :
    (insert key value members).Sorted := by
  induction members with
  | nil => exact List.pairwise_singleton _ _
  | cons q rest ih =>
    obtain ⟨k, v⟩ := q
    obtain ⟨hfirst, hrest⟩ := List.pairwise_cons.mp h
    unfold insert
    by_cases hsame : key = k
    · subst hsame
      rw [if_pos rfl]
      exact List.pairwise_cons.mpr ⟨hfirst, hrest⟩
    · rw [if_neg hsame]
      by_cases hlt : key < k
      · rw [if_pos hlt]
        refine List.pairwise_cons.mpr ⟨fun p hp => ?_, h⟩
        rcases List.mem_cons.mp hp with rfl | hp
        · exact hlt
        · exact String.lt_trans hlt (hfirst p hp)
      · rw [if_neg hlt]
        refine List.pairwise_cons.mpr ⟨fun p hp => ?_, ih hrest⟩
        rcases mem_insert hp with rfl | hp
        · exact Std.lt_of_le_of_ne (String.not_lt.mp hlt) (Ne.symm hsame)
        · exact hfirst p hp

end Members

/-! ## Order at every depth -/

/-- Every object in the value, the value itself among them, has its members in order. -/
inductive Ordered : Json → Prop where
  /-- The value `null`. -/
  | null : Ordered .null
  /-- A truth value. -/
  | bool (b : Bool) : Ordered (.bool b)
  /-- An integer. -/
  | int (n : Int) : Ordered (.int n)
  /-- Another number. -/
  | real (x : Binary64) : Ordered (.real x)
  /-- A string. -/
  | str (s : String) : Ordered (.str s)
  /-- An array of ordered items. -/
  | arr {items : List Json} (hitems : ∀ v ∈ items, Ordered v) : Ordered (.arr items)
  /-- An object with its members in order, each of them ordered. -/
  | obj {members : Members} (hsorted : members.Sorted)
      (hmembers : ∀ p ∈ members, Ordered p.2) : Ordered (.obj members)

/-- The object without members is ordered. -/
theorem ordered_empty : empty.Ordered := .obj .nil (List.forall_mem_nil _)

/-- A member put into an ordered object leaves it ordered. -/
theorem Ordered.insert {members : Members} {value : Json} (key : String)
    (h : Ordered (.obj members)) (hv : value.Ordered) :
    Ordered (.obj (Members.insert key value members)) := by
  cases h with
  | obj hsorted hmembers =>
    refine .obj (Members.sorted_insert key value hsorted) fun p hp => ?_
    rcases Members.mem_insert hp with rfl | hp
    · exact hv
    · exact hmembers p hp

/-! ## Reading a text -/

variable {v : Json} {cs rest : List Char}

/-- A number that is read as a double is ordered. -/
theorem ordered_of_realOf {whole fraction : List Char} {exponent : Int} {negative : Bool}
    (h : realOf whole fraction exponent negative = some v) : v.Ordered := by
  obtain ⟨x, -, rfl⟩ := Option.map_eq_some_iff.mp h
  exact .real _

/-- An integer literal is ordered. -/
theorem ordered_of_integerOf {whole : List Char} {negative : Bool}
    (h : integerOf whole negative = some v) : v.Ordered := by
  unfold integerOf at h
  dsimp only at h
  split at h
  · split at h
    · exact ordered_of_realOf h
    · cases h
      exact .int _
  · split at h
    · exact ordered_of_realOf h
    · cases h
      exact .int _

/-- A number is ordered. -/
theorem ordered_of_magnitude {negative : Bool} (h : magnitude negative cs = some (v, rest)) :
    v.Ordered := by
  unfold magnitude at h
  dsimp only at h
  split at h
  · cases h
  · split at h
    · cases h
    · split at h
      · cases h
      · obtain ⟨w, hw, hpair⟩ := Option.map_eq_some_iff.mp h
        cases hpair
        split at hw
        · exact ordered_of_integerOf hw
        · exact ordered_of_realOf hw

/-- A reader of members puts one member in, and then ends or reads on. -/
theorem exists_of_members {fuel depth : Nat} {acc : Members}
    (h : members (fuel + 1) depth acc cs = some (v, rest)) :
    ∃ key w before after, value fuel depth before = some (w, after) ∧
      (v = .obj (Members.insert key w acc) ∨
        ∃ more, members fuel depth (Members.insert key w acc) more = some (v, rest)) := by
  revert h
  generalize hsteps : fuel + 1 = steps
  fun_cases members steps depth acc cs with
  | case1 => exact nofun
  | case2 => exact nofun
  | case3 => exact nofun
  | case4 _ _ _ _ _ _ key _ _ before _ w after hvalue _ more =>
    intro h
    cases hsteps
    exact ⟨key, w, before, after, hvalue, .inr ⟨more, h⟩⟩
  | case5 _ _ _ _ _ _ key _ _ before _ w after hvalue =>
    intro h
    cases hsteps
    cases h
    exact ⟨key, w, before, after, hvalue, .inl rfl⟩
  | case6 => exact nofun
  | case7 => exact nofun
  | case8 => exact nofun

/-- What the three readers of values yield is ordered, if what they have read so far is. -/
theorem ordered_of_read (fuel : Nat) :
    (∀ depth cs v rest, value fuel depth cs = some (v, rest) → v.Ordered) ∧
    (∀ depth acc cs v rest, (∀ w ∈ acc, Ordered w) → items fuel depth acc cs = some (v, rest) →
      v.Ordered) ∧
    (∀ depth acc cs v rest, Ordered (.obj acc) → members fuel depth acc cs = some (v, rest) →
      v.Ordered) := by
  induction fuel with
  | zero => simp [value, items, members]
  | succ fuel ih =>
    obtain ⟨ihvalue, ihitems, ihmembers⟩ := ih
    refine ⟨fun depth cs v rest h => ?_, fun depth acc cs v rest hacc h => ?_,
      fun depth acc cs v rest hacc h => ?_⟩
    · unfold value at h
      split at h
      · cases h; exact .null
      · cases h; exact .bool true
      · cases h; exact .bool false
      · obtain ⟨p, -, hp⟩ := Option.map_eq_some_iff.mp h
        cases hp
        exact .str _
      · split at h
        · cases h
        · split at h
          · cases h
            exact .arr (List.forall_mem_nil _)
          · exact ihitems _ _ _ _ _ (List.forall_mem_nil _) h
      · split at h
        · cases h
        · split at h
          · cases h
            exact ordered_empty
          · exact ihmembers _ _ _ _ _ ordered_empty h
      · exact ordered_of_magnitude h
      · exact ordered_of_magnitude h
    · unfold items at h
      cases hvalue : value fuel depth cs with
      | none =>
        rw [hvalue] at h
        cases h
      | some found =>
        obtain ⟨w, after⟩ := found
        rw [hvalue] at h
        dsimp only at h
        have hacc' : ∀ x ∈ w :: acc, Ordered x :=
          List.forall_mem_cons.mpr ⟨ihvalue _ _ _ _ hvalue, hacc⟩
        split at h
        · exact ihitems _ _ _ _ _ hacc' h
        · cases h
          exact .arr fun x hx => hacc' x (List.mem_reverse.mp hx)
        · cases h
    · obtain ⟨key, w, before, after, hvalue, hrest⟩ := exists_of_members h
      have hacc' := hacc.insert key (ihvalue _ _ _ _ hvalue)
      rcases hrest with rfl | ⟨more, hmore⟩
      · exact hacc'
      · exact ihmembers _ _ _ _ _ hacc' hmore

/-- A value read from a text is ordered at every depth. -/
theorem ordered_of_parse? {text : String} (h : parse? text = some v) : v.Ordered := by
  unfold parse? at h
  dsimp only at h
  cases hvalue : value (text.toList.length + 2) 128 text.toList with
  | none =>
    rw [hvalue] at h
    cases h
  | some found =>
    obtain ⟨w, rest⟩ := found
    rw [hvalue] at h
    dsimp only at h
    split at h
    · cases h
      exact (ordered_of_read _).1 _ _ _ _ hvalue
    · cases h

end PagePreview.Json
