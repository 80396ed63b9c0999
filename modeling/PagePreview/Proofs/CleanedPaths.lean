import Mathlib.Logic.Relation
import PagePreview.Fixture.Walk
import PagePreview.Proofs.FileNames

/-!
# What cleaning does to a path

Of the pieces of a path only those say something that are neither empty nor a single dot. A path is
cleaned exactly if there are such pieces and none of them leads up, and the clean path is these
pieces with slashes between them. The same comes of walking through the components of the path.
-/

namespace PagePreview

namespace Path

/-- The pieces of a path that say something: all but the empty ones and single dots. -/
def said (path : String) : List String :=
  (pieces path).filter fun piece => piece != "" && piece != "."

/-- What a path says: its pieces that are not empty and not the dot. -/
theorem mem_said_iff {path piece : String} :
    piece ∈ said path ↔ piece ∈ pieces path ∧ piece ≠ "" ∧ piece ≠ "." := by
  simp [said]

/-- The empty path says nothing. -/
@[simp]
theorem said_empty : said "" = [] := rfl

/-- The dot says nothing. -/
@[simp]
theorem said_dot : said "." = [] := rfl

/-- Two paths with a slash between them say what both say. -/
@[simp]
theorem said_append_slash (a b : String) : said (a ++ "/" ++ b) = said a ++ said b := by
  rw [said, pieces_append_slash, List.filter_append]
  rfl

/-- Slashes in front of a path say nothing. -/
@[simp]
theorem said_slash_append (path : String) : said ("/" ++ path) = said path := by
  simpa using said_append_slash "" path

/-- Slashes behind a path say nothing. -/
@[simp]
theorem said_append_slash_empty (path : String) : said (path ++ "/") = said path := by
  simpa using said_append_slash path ""

/-- Names that say something are said by the path that joins them. -/
theorem said_intercalate {names : List String} (hn : names ≠ [])
    (hnames : ∀ name ∈ names, '/' ∉ name.toList ∧ name ≠ "" ∧ name ≠ ".") :
    said (String.intercalate "/" names) = names := by
  rw [said, pieces_intercalate hn fun name hname => (hnames name hname).1]
  apply List.filter_eq_self.mpr
  intro name hname
  simpa using (hnames name hname).2

/-- Slashes and dots in front say nothing. -/
theorem said_trimFront (path : String) : said (trimFront path) = said path := by
  have hchars : ∀ cs : List Char,
      said (String.ofList (cs.dropWhile (· == '/'))) = said (String.ofList cs) := by
    intro cs
    induction cs with
    | nil => rfl
    | cons c rest ih =>
      by_cases hc : c = '/'
      · subst hc
        have hcons : String.ofList ('/' :: rest) = "/" ++ String.ofList rest := by
          rw [← String.toList_inj]
          simp
        rw [List.dropWhile_cons_of_pos (by decide), ih, hcons, said_slash_append]
      · rw [List.dropWhile_cons_of_neg (by simpa using hc)]
  rw [trimFront, hchars, String.ofList_toList]

/-- A path without slashes in front has no root. -/
theorem front_trimFront (path : String) :
    front (trimFront path) = [] ∨ front (trimFront path) = [.current] := by
  have hhead : ¬(trimFront path).toList.head? = some '/' := by
    rw [trimFront, String.toList_ofList]
    intro hslash
    have hfalse := Text.eq_false_of_mem_head?_dropWhile hslash
    simp at hfalse
  unfold front
  rw [if_neg hhead]
  split
  · exact .inr rfl
  · exact .inl rfl

/-- The component that a piece stands for if it says something. -/
def componentOf (piece : String) : Component := if piece = ".." then .parent else .name piece

/-- The components behind the front are what the path says. -/
theorem inner_eq_map_said (path : String) : inner path = (said path).map componentOf := by
  have hkept : ∀ piece, ofPiece? piece =
      if piece != "" && piece != "." then some (componentOf piece) else none := by
    intro piece
    unfold ofPiece? componentOf
    by_cases hsilent : piece = "" ∨ piece = "."
    · rcases hsilent with rfl | rfl <;> rfl
    · have hsays : (piece != "" && piece != ".") = true := by simpa [not_or] using hsilent
      rw [if_neg hsilent, if_pos hsays]
      split <;> rfl
  unfold inner said
  rw [funext hkept, ← List.filterMap_eq_map', List.filterMap_filter]

/-- What a path says is plain names, unless it goes up. -/
theorem plainName_of_mem_said {path piece : String} (h : piece ∈ said path)
    (hup : ".." ∉ said path) : PlainName piece := by
  obtain ⟨hpiece, hempty, hdot⟩ := mem_said_iff.mp h
  refine ⟨hempty, hdot, ?_, no_slash_of_mem_pieces hpiece⟩
  rintro rfl
  exact hup h

/-- A text that joins plain names is neither empty nor ends with a slash. -/
theorem intercalate_plain {names : List String} (hn : names ≠ [])
    (hp : ∀ name ∈ names, PlainName name) :
    String.intercalate "/" names ≠ "" ∧
      (String.intercalate "/" names).toList.getLast? ≠ some '/' := by
  have hempty : "" ∉ pieces (String.intercalate "/" names) := by
    rw [pieces_intercalate hn fun name hname => (hp name hname).no_slash]
    exact fun hmem => (hp "" hmem).ne_empty rfl
  constructor
  · intro hnone
    rw [hnone] at hempty
    exact hempty (List.mem_singleton_self "")
  · intro hslash
    obtain ⟨cs, hcs⟩ := List.getLast?_eq_some_iff.mp hslash
    have hends : String.intercalate "/" names = String.ofList cs ++ "/" ++ "" := by
      rw [← String.toList_inj, hcs]
      simp
    rw [hends, pieces_append_slash] at hempty
    exact hempty (List.mem_append_right _ (List.mem_singleton_self ""))

/-- A plain name is put behind others with a slash between them. -/
theorem join_intercalate {names : List String} {name : String}
    (hnames : ∀ other ∈ names, PlainName other) (hname : PlainName name) :
    join (String.intercalate "/" names) name = String.intercalate "/" (names ++ [name]) := by
  have hrelative : ¬name.toList.head? = some '/' := fun hslash =>
    hname.no_slash (List.mem_of_mem_head? hslash)
  unfold join
  rw [if_neg hrelative]
  by_cases hn : names = []
  · subst hn
    simp
  · rw [if_neg (not_or.mpr (intercalate_plain hn hnames))]
    rw [String.intercalate_append_of_ne_nil hn (by simp), String.intercalate_singleton]

/-! ## Spellings -/

/-- A path is written with a slash or a dot more that says nothing. -/
inductive Respelled : String → String → Prop
  /-- A slash in front. -/
  | slashBefore (path : String) : Respelled path ("/" ++ path)
  /-- A dot in front. -/
  | dotBefore (path : String) : Respelled path ("./" ++ path)
  /-- A slash behind. -/
  | slashBehind (path : String) : Respelled path (path ++ "/")
  /-- A dot behind. -/
  | dotBehind (path : String) : Respelled path (path ++ "/.")
  /-- Behind a slash, which a slash in front of the rest makes a double one. -/
  | behind (front : String) {a b : String} (h : Respelled a b) :
      Respelled (front ++ "/" ++ a) (front ++ "/" ++ b)

/-- Two spellings of one path: slashes and dots that say nothing are put in and left out, any number
of them and wherever they stand. -/
def SameSteps : String → String → Prop := Relation.EqvGen Respelled

/-- A path that is spelled in another way says the same. -/
theorem Respelled.said_eq {a b : String} (h : Respelled a b) : said a = said b := by
  induction h with
  | slashBefore path => simp
  | dotBefore path =>
    have hpath : "./" ++ path = "." ++ "/" ++ path := by rw [show "." ++ "/" = "./" from rfl]
    simp [hpath]
  | slashBehind path => simp
  | dotBehind path =>
    have hpath : path ++ "/." = path ++ "/" ++ "." := by
      rw [String.append_assoc, show "/" ++ "." = "/." from rfl]
    simp [hpath]
  | behind front _ ih => simp [ih]

/-- Paths that take the same steps say the same. -/
theorem SameSteps.said_eq {a b : String} (h : SameSteps a b) : said a = said b := by
  induction h with
  | rel a b h => exact h.said_eq
  | refl a => rfl
  | symm a b _ ih => exact ih.symm
  | trans a b c _ _ hab hbc => exact hab.trans hbc

/-- They take the same steps behind the same front. -/
theorem SameSteps.behind (front : String) {a b : String} (h : SameSteps a b) :
    SameSteps (front ++ "/" ++ a) (front ++ "/" ++ b) := by
  induction h with
  | rel a b h => exact .rel _ _ (h.behind front)
  | refl a => exact .refl _
  | symm a b _ ih => exact .symm _ _ ih
  | trans a b c _ _ hab hbc => exact .trans _ _ _ hab hbc

/-- A piece that says nothing may be left out in front of a path. -/
theorem sameSteps_silent_before {piece : String} (h : piece = "" ∨ piece = ".") (path : String) :
    SameSteps (piece ++ "/" ++ path) path := by
  rcases h with rfl | rfl
  · rw [String.empty_append]
    exact .symm _ _ (.rel _ _ (.slashBefore path))
  · exact .symm _ _ (.rel _ _ (.dotBefore path))

/-- A piece that says nothing may be left out behind a path. -/
theorem sameSteps_silent_behind {piece : String} (h : piece = "" ∨ piece = ".") (path : String) :
    SameSteps (path ++ "/" ++ piece) path := by
  rcases h with rfl | rfl
  · rw [String.append_empty]
    exact .symm _ _ (.rel _ _ (.slashBehind path))
  · rw [String.append_assoc]
    exact .symm _ _ (.rel _ _ (.dotBehind path))

/-- Behind a piece, all that says nothing may be left out. -/
theorem sameSteps_cons (piece : String) (rest : List String) :
    SameSteps (String.intercalate "/" (piece :: rest)) (String.intercalate "/"
      (piece :: rest.filter fun piece => piece != "" && piece != ".")) := by
  induction rest generalizing piece with
  | nil => exact .refl _
  | cons next rest ih =>
    rw [String.intercalate_cons_cons]
    refine .trans _ _ _ ((ih next).behind piece) ?_
    by_cases hsilent : next = "" ∨ next = "."
    · rw [List.filter_cons_of_neg (by simpa [or_iff_not_imp_left] using hsilent)]
      cases rest.filter fun piece => piece != "" && piece != "." with
      | nil =>
        simp only [String.intercalate_singleton]
        exact sameSteps_silent_behind hsilent piece
      | cons other others =>
        rw [String.intercalate_cons_cons, String.intercalate_cons_cons]
        exact (sameSteps_silent_before hsilent _).behind piece
    · rw [List.filter_cons_of_pos (by simpa [not_or] using hsilent), String.intercalate_cons_cons]
      exact .refl _

/-- A path that says something is spelled by what it says. -/
theorem sameSteps_said {path : String} (hn : said path ≠ []) :
    SameSteps path (String.intercalate "/" (said path)) := by
  have hpath : String.intercalate "/" (pieces path) = path := by
    apply pieces_injective
    rw [pieces_intercalate (pieces_ne_nil path) fun piece hpiece => no_slash_of_mem_pieces hpiece]
  obtain ⟨piece, rest, hpieces⟩ := List.exists_cons_of_ne_nil (pieces_ne_nil path)
  have hcut := sameSteps_cons piece rest
  rw [← hpieces, hpath] at hcut
  refine .trans _ _ _ hcut ?_
  unfold said at hn ⊢
  rw [hpieces] at hn ⊢
  by_cases hsilent : piece = "" ∨ piece = "."
  · rw [List.filter_cons_of_neg (by simpa [or_iff_not_imp_left] using hsilent)] at hn ⊢
    obtain ⟨other, others, hrest⟩ := List.exists_cons_of_ne_nil hn
    rw [hrest, String.intercalate_cons_cons]
    exact sameSteps_silent_before hsilent _
  · rw [List.filter_cons_of_pos (by simpa [not_or] using hsilent)]
    exact .refl _

end Path

namespace Fixture

open PagePreview.Path (said)

variable {path : String}

/-- What cleaning comes to: the pieces that say something, unless there are none or one leads up. -/
theorem safeRelative?_eq (path : String) : safeRelative? path =
    if said path = [] ∨ ".." ∈ said path then none
    else some (String.intercalate "/" (said path)) := by
  unfold safeRelative? plainNames?
  dsimp only
  rw [← said]
  simp only [List.isEmpty_iff, List.contains_iff_mem]
  split <;> rfl

/-! ## Component by component -/

/-- Names are put one behind the other. -/
theorem foldlM_put?_names {names : List String} (hnames : ∀ name ∈ names, Path.PlainName name)
    {clean : List String} (hclean : ∀ name ∈ clean, Path.PlainName name) :
    (names.map Path.Component.name).foldlM put? (String.intercalate "/" clean) =
      some (String.intercalate "/" (clean ++ names)) := by
  induction names generalizing clean with
  | nil => simp
  | cons name rest ih =>
    obtain ⟨hname, hrest⟩ := List.forall_mem_cons.mp hnames
    have hlonger : ∀ other ∈ clean ++ [name], Path.PlainName other :=
      List.forall_mem_append.mpr ⟨hclean, by simpa using hname⟩
    rw [List.map_cons, List.foldlM_cons, put?, Path.join_intercalate hclean hname]
    simpa using ih hrest hlonger

/-- A step upwards refuses the path, wherever it stands. -/
theorem foldlM_put?_of_parent {components : List Path.Component}
    (h : Path.Component.parent ∈ components) (clean : String) :
    components.foldlM put? clean = none := by
  induction components generalizing clean with
  | nil => cases h
  | cons component rest ih =>
    rw [List.foldlM_cons]
    cases hput : put? clean component with
    | none => rfl
    | some longer =>
      rcases List.mem_cons.mp h with rfl | hrest
      · cases hput
      · exact ih hrest longer

/-- Walking through the components comes to the same. -/
theorem walkRelative?_eq (path : String) : walkRelative? path = safeRelative? path := by
  -- A dot in front of the path is passed over.
  have hinner : (Path.components (Path.trimFront path)).foldlM put? "" =
      ((said path).map Path.componentOf).foldlM put? "" := by
    rw [Path.components_eq_front_append_inner, Path.inner_eq_map_said, Path.said_trimFront]
    rcases Path.front_trimFront path with hfront | hfront
    · rw [hfront, List.nil_append]
    · rw [hfront, List.singleton_append, List.foldlM_cons]
      rfl
  unfold walkRelative?
  rw [hinner, safeRelative?_eq]
  by_cases hup : ".." ∈ said path
  · rw [if_pos (Or.inr hup),
      foldlM_put?_of_parent (List.mem_map_of_mem (f := Path.componentOf) hup)]
    rfl
  · have hplain : ∀ name ∈ said path, Path.PlainName name := fun name hname =>
      Path.plainName_of_mem_said hname hup
    have hnames : (said path).map Path.componentOf = (said path).map .name :=
      List.map_congr_left fun name hname => if_neg (hplain name hname).ne_dots
    have hfold : ((said path).map Path.Component.name).foldlM put? "" =
        some (String.intercalate "/" (said path)) :=
      @foldlM_put?_names _ hplain [] (List.forall_mem_nil _)
    rw [hnames, hfold]
    dsimp only [Option.bind_eq_bind, Option.bind_some]
    by_cases hn : said path = []
    · rw [if_pos (Or.inl hn), hn]
      rfl
    · rw [if_neg (not_or.mpr ⟨hn, hup⟩), if_neg]
      rw [String.isEmpty_iff]
      exact (Path.intercalate_plain hn hplain).1

/-! ## The result -/

/-- A path that does not go up and says something is cleaned to what it says. -/
theorem safeRelative?_eq_some_iff {safe : String} : safeRelative? path = some safe ↔
    said path ≠ [] ∧ ".." ∉ said path ∧ safe = String.intercalate "/" (said path) := by
  rw [safeRelative?_eq]
  by_cases hrefused : said path = [] ∨ ".." ∈ said path
  · rw [if_pos hrefused]
    tauto
  · rw [if_neg hrefused, Option.some_inj]
    tauto

/-- Names of their own, whatever dots they have, are kept as they are. -/
theorem safeRelative?_intercalate {names : List String} (hn : names ≠ [])
    (hnames : ∀ name ∈ names, '/' ∉ name.toList ∧ name ∉ ["", ".", ".."]) :
    safeRelative? (String.intercalate "/" names) = some (String.intercalate "/" names) := by
  have hsaid : said (String.intercalate "/" names) = names := by
    apply Path.said_intercalate hn
    intro name hname
    obtain ⟨hslash, hother⟩ := hnames name hname
    simp only [List.mem_cons, not_or] at hother
    exact ⟨hslash, hother.1, hother.2.1⟩
  rw [safeRelative?_eq_some_iff, hsaid]
  refine ⟨hn, fun hup => ?_, rfl⟩
  simpa using (hnames ".." hup).2

/-- A path is cleaned exactly if it says something and no step upwards, and then to what it says,
with slashes between; walking through its components comes to the same. All spellings of a path that
differ in slashes and dots that say nothing are treated alike, and the clean path is one of them. It
is kept when it is cleaned again, as are all names but the empty one and one or two dots. -/
theorem path_is_cleaned_to_what_it_says (path : String) :
    (∀ safe, safeRelative? path = some safe ↔
      said path ≠ [] ∧ ".." ∉ said path ∧ safe = String.intercalate "/" (said path)) ∧
    walkRelative? path = safeRelative? path ∧
    (∀ other, Path.SameSteps path other → safeRelative? other = safeRelative? path) ∧
    (∀ safe, safeRelative? path = some safe →
      Path.SameSteps path safe ∧ safeRelative? safe = some safe) ∧
    ∀ names : List String, names ≠ [] →
      (∀ name ∈ names, '/' ∉ name.toList ∧ name ∉ ["", ".", ".."]) →
      safeRelative? (String.intercalate "/" names) = some (String.intercalate "/" names) := by
  have hsame : ∀ {a b : String}, Path.SameSteps a b → safeRelative? b = safeRelative? a := by
    intro a b h
    rw [safeRelative?_eq, safeRelative?_eq, h.said_eq]
  refine ⟨fun safe => safeRelative?_eq_some_iff, walkRelative?_eq path, fun other => hsame, ?_,
    fun names hn hnames => safeRelative?_intercalate hn hnames⟩
  intro safe hsafe
  obtain ⟨hn, -, rfl⟩ := safeRelative?_eq_some_iff.mp hsafe
  have hspelled := Path.sameSteps_said hn
  exact ⟨hspelled, (hsame hspelled).trans hsafe⟩

/-- A path with dots that say nothing, and names of dots that are kept. -/
theorem path_is_cleaned_to_what_it_says_dots :
    safeRelative? "./a..b//.../." = some "a..b/..." ∧
    safeRelative? "/./a..b//.../." = safeRelative? "./a..b//.../." ∧
    Path.SameSteps "./a..b//.../." "a..b/..." ∧ safeRelative? "a..b/..." = some "a..b/..." ∧
    safeRelative? (String.intercalate "/" ["a..b", "..."]) =
      some (String.intercalate "/" ["a..b", "..."]) := by
  have hclean : safeRelative? "./a..b//.../." = some "a..b/..." := by decide +kernel
  obtain ⟨-, -, hspellings, hkept, hnames⟩ := path_is_cleaned_to_what_it_says "./a..b//.../."
  exact ⟨hclean, hspellings "/./a..b//.../." (.rel _ _ (.slashBefore _)), (hkept _ hclean).1,
    (hkept _ hclean).2, hnames ["a..b", "..."] (by decide) (by decide +kernel)⟩

end Fixture

end PagePreview
