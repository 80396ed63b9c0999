import PagePreview.Fixture.Lookup
import PagePreview.Proofs.Words

/-!
# Plain paths

Cutting a text at slashes and joining the pieces undo each other. A path that has been cleaned is
a sequence of plain names, and joined to a directory it adds these names to the directory's
components and nothing else. Links on the disk are not considered: a place below a directory is
what the text of the path says.
-/

namespace PagePreview

namespace Path

/-- A name that leads one step down. -/
structure PlainName (name : String) : Prop where
  /-- It is not empty. -/
  ne_empty : name ≠ ""
  /-- It is not the directory itself. -/
  ne_dot : name ≠ "."
  /-- It is no step upwards. -/
  ne_dots : name ≠ ".."
  /-- It is one name. -/
  no_slash : '/' ∉ name.toList

/-- A longer name is none of those that say nothing or lead up. -/
theorem plainName_of_length {name : String} (hlength : 3 ≤ name.toList.length)
    (hslash : '/' ∉ name.toList) : PlainName name := by
  have hlonger : ∀ short : String, short.toList.length < 3 → name ≠ short := by
    rintro _ hshort rfl
    omega
  exact ⟨hlonger "" (by decide), hlonger "." (by decide), hlonger ".." (by decide), hslash⟩

/-- A path that goes from a root downwards only, at least one step, each by a plain name. -/
def Below (root path : String) : Prop :=
  ∃ names : List String, names ≠ [] ∧ (∀ name ∈ names, PlainName name) ∧
    path = join root (String.intercalate "/" names)

/-! ## Pieces -/

/-- Every path has a piece. -/
theorem pieces_ne_nil (path : String) : pieces path ≠ [] := by
  simp [pieces, Text.splitWhere_eq_splitOnP, List.splitOnP_ne_nil]

/-- A slash between two texts is a cut between their pieces. -/
theorem pieces_append_slash (a b : String) : pieces (a ++ "/" ++ b) = pieces a ++ pieces b := by
  have hs : (a ++ "/" ++ b).toList = a.toList ++ '/' :: b.toList := by simp
  unfold pieces
  rw [hs, Text.splitWhere_append_cons (by simp), List.map_append]

/-- A piece holds no slash. -/
theorem no_slash_of_mem_pieces {path piece : String} (h : piece ∈ pieces path) :
    '/' ∉ piece.toList := by
  obtain ⟨cs, hcs, rfl⟩ := List.mem_map.mp h
  intro hslash
  rw [String.toList_ofList] at hslash
  have hf := Text.not_sep_of_mem_splitWhere hcs hslash
  exact absurd hf (by simp)

/-- Names without slashes are the pieces of the text that joins them. -/
theorem pieces_intercalate {names : List String} (hn : names ≠ [])
    (hs : ∀ name ∈ names, '/' ∉ name.toList) : pieces (String.intercalate "/" names) = names := by
  have hcut : (['/'].intercalate (names.map String.toList)).splitOn '/' =
      names.map String.toList := by
    apply List.splitOn_intercalate
    · intro cs hcs
      obtain ⟨name, hname, rfl⟩ := List.mem_map.mp hcs
      exact hs name hname
    · simpa using hn
  have htext : (String.intercalate "/" names).toList =
      ['/'].intercalate (names.map String.toList) := by
    rw [String.toList_intercalate]
    rfl
  unfold pieces
  rw [Text.splitWhere_eq_splitOnP, htext, ← List.splitOn_eq_splitOnP, hcut, List.map_map]
  simp [Function.comp_def]

/-! ## Components -/

/-- The component in front of a path that is not a name: the root, or a dot. -/
def front (path : String) : List Component :=
  if path.toList.head? = some '/' then [.root]
  else if (pieces path).head? = some "." then [.current]
  else []

/-- The components that the pieces of a path stand for inside a path. -/
def inner (path : String) : List Component := (pieces path).filterMap ofPiece?

/-- The components of a path: what its first piece says, and those of its pieces. -/
theorem components_eq_front_append_inner (path : String) :
    components path = front path ++ inner path := by
  unfold components front inner
  dsimp only
  split
  · rfl
  · split <;> rfl

/-- The empty path has no components of its own. -/
theorem inner_empty : inner "" = [] := rfl

/-- A path ends in a name if the last of its components is one. -/
theorem fileName?_eq_some_iff_getLast? {path name : String} :
    fileName? path = some name ↔ (components path).getLast? = some (.name name) := by
  fun_cases fileName? path with
  | case1 s hlast => simp [hlast]
  | case2 hlast =>
    constructor
    · exact nofun
    · exact fun h => absurd h (hlast _)

/-- What stands behind a slash only adds components. -/
theorem inner_append_slash (a b : String) : inner (a ++ "/" ++ b) = inner a ++ inner b := by
  rw [inner, pieces_append_slash, List.filterMap_append]
  rfl

/-- What stands behind a slash does not change what stands in front. -/
theorem front_append_slash (a b : String) : front (a ++ "/" ++ b) = front (a ++ "/") := by
  obtain ⟨piece, rest, hpieces⟩ := List.exists_cons_of_ne_nil (pieces_ne_nil a)
  have hends := pieces_append_slash a ""
  rw [String.append_empty] at hends
  have hhead : (a ++ "/" ++ b).toList.head? = (a ++ "/").toList.head? := by
    cases hcs : a.toList <;> simp [hcs]
  unfold front
  rw [hhead, pieces_append_slash, hends, hpieces]
  rfl

/-- A slash behind a text that is not empty does not change what stands in front. -/
theorem front_slash {a : String} (ha : a ≠ "") : front (a ++ "/") = front a := by
  obtain ⟨c, cs, hcs⟩ := List.exists_cons_of_ne_nil (mt String.toList_eq_nil_iff.mp ha)
  obtain ⟨piece, rest, hpieces⟩ := List.exists_cons_of_ne_nil (pieces_ne_nil a)
  have hends := pieces_append_slash a ""
  rw [String.append_empty] at hends
  have hhead : (a ++ "/").toList.head? = a.toList.head? := by simp [hcs]
  unfold front
  rw [hhead, hends, hpieces]
  rfl

/-- A piece is the way up, or a name. -/
theorem ofPiece?_cases {piece : String} {c : Component} (h : ofPiece? piece = some c) :
    c = .parent ∨ (c = .name piece ∧ piece ≠ "" ∧ piece ≠ "." ∧ piece ≠ "..") := by
  revert h
  fun_cases ofPiece? piece with
  | case1 => exact nofun
  | case2 => exact fun h => .inl (Option.some.inj h).symm
  | case3 hpiece hdots =>
    intro h
    rw [not_or] at hpiece
    exact .inr ⟨(Option.some.inj h).symm, hpiece.1, hpiece.2, hdots⟩

/-- A plain name stands for itself. -/
theorem ofPiece?_plain {name : String} (h : PlainName name) :
    ofPiece? name = some (.name name) := by
  unfold ofPiece?
  rw [if_neg (not_or.mpr ⟨h.ne_empty, h.ne_dot⟩), if_neg h.ne_dots]

section Names

variable {names : List String} (hn : names ≠ []) (hp : ∀ name ∈ names, PlainName name)
include hp

/-- Plain names are components as they are. -/
theorem filterMap_ofPiece?_plain : names.filterMap ofPiece? = names.map .name := by
  induction names with
  | nil => rfl
  | cons name rest ih =>
    rw [List.filterMap_cons_some (ofPiece?_plain (hp name List.mem_cons_self)), List.map_cons,
      ih fun other hother => hp other (List.mem_cons_of_mem name hother)]

include hn

/-- The components of a text that joins plain names are these names. -/
theorem inner_intercalate : inner (String.intercalate "/" names) = names.map .name := by
  unfold inner
  rw [pieces_intercalate hn fun name hname => (hp name hname).no_slash,
    filterMap_ofPiece?_plain hp]

/-- A text that joins plain names starts with the first of them. -/
theorem head_intercalate : ∃ c, (String.intercalate "/" names).toList.head? = some c ∧ c ≠ '/' := by
  cases names with
  | nil => exact absurd rfl hn
  | cons name rest =>
    have hplain := hp name List.mem_cons_self
    obtain ⟨c, cs, hcs⟩ :=
      List.exists_cons_of_ne_nil (mt String.toList_eq_nil_iff.mp hplain.ne_empty)
    have hc : c ≠ '/' := by
      intro he
      apply hplain.no_slash
      rw [hcs, he]
      exact List.mem_cons_self
    refine ⟨c, ?_, hc⟩
    cases rest with
    | nil => simp [hcs]
    | cons other others => simp [hcs]

/-- Nothing stands in front of a text that joins plain names. -/
theorem front_intercalate : front (String.intercalate "/" names) = [] := by
  obtain ⟨c, hhead, hc⟩ := head_intercalate hn hp
  have hpieces := pieces_intercalate hn fun name hname => (hp name hname).no_slash
  unfold front
  rw [hhead, hpieces, if_neg (by simpa using hc), if_neg]
  intro hdot
  exact (hp "." (List.mem_of_mem_head? hdot)).ne_dot rfl

/-- Joining plain names to a directory adds them to its components. -/
theorem components_join (root : String) :
    components (join root (String.intercalate "/" names)) =
      components root ++ names.map .name := by
  obtain ⟨c, hhead, hc⟩ := head_intercalate hn hp
  have hrelative : ¬(String.intercalate "/" names).toList.head? = some '/' := by
    rw [hhead]
    simpa using hc
  unfold join
  rw [if_neg hrelative, components_eq_front_append_inner, components_eq_front_append_inner root,
    List.append_assoc]
  by_cases hroot : root = "" ∨ root.toList.getLast? = some '/'
  · rw [if_pos hroot]
    rcases hroot with rfl | hslash
    · rw [String.empty_append, front_intercalate hn hp, inner_intercalate hn hp, inner_empty]
      rfl
    · -- The slash at the end of the root is the one between the root and the names.
      obtain ⟨cs, hcs⟩ := List.getLast?_eq_some_iff.mp hslash
      have hroot : root = String.ofList cs ++ "/" := by
        rw [← String.toList_inj, hcs]
        simp
      rw [hroot, front_append_slash, inner_append_slash, inner_intercalate hn hp]
      have hends := inner_append_slash (String.ofList cs) ""
      rw [String.append_empty, inner_empty, List.append_nil] at hends
      rw [hends]
  · rw [if_neg hroot]
    rw [not_or] at hroot
    rw [front_append_slash, front_slash hroot.1, inner_append_slash, inner_intercalate hn hp]

end Names

end Path

namespace Fixture

/-- The names of a cleaned path are plain, and there is one. -/
theorem plainNames?_plain {path : String} {names : List String}
    (h : plainNames? path = some names) :
    names ≠ [] ∧ ∀ name ∈ names, Path.PlainName name := by
  revert h
  fun_cases plainNames? path with
  | case1 => exact nofun
  | case2 kept hsafe =>
    intro h
    rw [not_or] at hsafe
    obtain rfl := Option.some.inj h
    constructor
    · intro he
      exact hsafe.1 (by simp [he])
    · intro name hname
      have hdots : name ≠ ".." := by
        intro he
        apply hsafe.2
        rw [List.contains_iff_mem, ← he]
        exact hname
      obtain ⟨hpiece, hkept⟩ := List.mem_filter.mp hname
      simp only [Bool.and_eq_true, bne_iff_ne] at hkept
      exact ⟨hkept.1, hkept.2, hdots, Path.no_slash_of_mem_pieces hpiece⟩

/-- The names of a cleaned path are the components inside it. -/
theorem inner_of_plainNames? {path : String} {names : List String}
    (h : plainNames? path = some names) : Path.inner path = names.map .name := by
  rw [← Path.filterMap_ofPiece?_plain (plainNames?_plain h).2]
  unfold plainNames? at h
  dsimp only at h
  split at h
  · cases h
  · obtain rfl := Option.some.inj h
    unfold Path.inner
    rw [List.filterMap_filter]
    congr 1
    funext piece
    by_cases hsilent : piece = "" ∨ piece = "."
    · rw [Path.ofPiece?, if_pos hsilent]
      rcases hsilent with rfl | rfl <;> rfl
    · have hkept : (piece != "" && piece != ".") = true := by simpa [not_or] using hsilent
      rw [if_pos hkept]

/-- A cleaned path leads below every root that it is joined to. -/
theorem below_of_safeRelative? {path safe : String} (h : safeRelative? path = some safe)
    (root : String) : Path.Below root (Path.join root safe) := by
  obtain ⟨names, hnames, rfl⟩ := Option.map_eq_some_iff.mp h
  obtain ⟨hn, hp⟩ := plainNames?_plain hnames
  exact ⟨names, hn, hp, rfl⟩

end Fixture

end PagePreview
