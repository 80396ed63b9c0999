import PagePreview.Proofs.PlainPaths

/-!
# The name at the end of a path

A path ends in a name if a plain name stands in it behind which only slashes and single dots follow.
The extension of a name is what follows its last dot, unless nothing stands before this dot.
-/

namespace PagePreview.Path

/-! ## Pieces -/

/-- Paths with the same pieces are the same. -/
theorem pieces_injective {a b : String} (h : pieces a = pieces b) : a = b := by
  have hjoin : ∀ path : String, ['/'].intercalate ((pieces path).map String.toList) =
      path.toList := by
    intro path
    unfold pieces
    rw [List.map_map, Text.splitWhere_eq_splitOnP, ← List.splitOn_eq_splitOnP]
    simp [Function.comp_def, List.intercalate_splitOn]
  rw [← String.toList_inj, ← hjoin a, h, hjoin b]

/-- A name without a slash is its only piece. -/
theorem pieces_of_no_slash {name : String} (h : '/' ∉ name.toList) : pieces name = [name] := by
  have hjoined := pieces_intercalate (List.cons_ne_nil name []) (by simpa using h)
  simpa using hjoined

/-- Every cut between the pieces of a path is at a slash. -/
theorem exists_slash_of_pieces {path : String} {before behind : List String}
    (h : pieces path = before ++ behind) (hbefore : before ≠ []) (hbehind : behind ≠ []) :
    ∃ a b, path = a ++ "/" ++ b ∧ pieces a = before ∧ pieces b = behind := by
  have hno : ∀ piece ∈ before ++ behind, '/' ∉ piece.toList := by
    intro piece hpiece
    rw [← h] at hpiece
    exact no_slash_of_mem_pieces hpiece
  have ha := pieces_intercalate hbefore fun piece hp => hno piece (List.mem_append_left _ hp)
  have hb := pieces_intercalate hbehind fun piece hp => hno piece (List.mem_append_right _ hp)
  refine ⟨_, _, pieces_injective ?_, ha, hb⟩
  rw [pieces_append_slash, ha, hb, h]

/-! ## Where a name begins -/

/-- What stands before a name: nothing, or a text that ends with a slash. -/
def EndsAtSlash (front : String) : Prop := front = "" ∨ ∃ directory, front = directory ++ "/"

/-- What stands behind a name and says nothing: no text, or a slash and then slashes and single dots
between them. -/
def SaysNothing (tail : String) : Prop :=
  tail = "" ∨ ∃ rest, tail = "/" ++ rest ∧ ∀ piece ∈ pieces rest, piece = "" ∨ piece = "."

/-- The last piece of a path is the name behind its last slash. -/
theorem pieces_name {front name : String} (hfront : EndsAtSlash front) (hname : '/' ∉ name.toList) :
    pieces (front ++ name) = (pieces front).dropLast ++ [name] := by
  rcases hfront with rfl | ⟨directory, rfl⟩
  · rw [String.empty_append, pieces_of_no_slash hname]
    rfl
  · have hends := pieces_append_slash directory ""
    rw [String.append_empty] at hends
    rw [pieces_append_slash, pieces_of_no_slash hname, hends]
    exact congrArg (· ++ [name]) (List.dropLast_concat (b := "")).symm

/-- A text is cut behind its last slash, if it has one. -/
theorem exists_name (text : String) :
    ∃ front name, EndsAtSlash front ∧ '/' ∉ name.toList ∧ text = front ++ name := by
  by_cases h : '/' ∈ text.toList.reverse
  · obtain ⟨name, directory, htext, hname⟩ := List.eq_append_cons_of_mem h
    refine ⟨String.ofList directory.reverse ++ "/", String.ofList name.reverse, .inr ⟨_, rfl⟩,
      by simpa using hname, ?_⟩
    rw [← String.toList_inj, ← List.reverse_inj, htext]
    simp
  · exact ⟨"", text, .inl rfl, by simpa using h, by rw [String.empty_append]⟩

/-- What is added to the end of a text is added to its last name. -/
theorem exists_base (text : String) :
    ∃ base, '/' ∉ base.toList ∧ ∀ ending, '/' ∉ ending.toList →
      pieces (text ++ ending) = (pieces text).dropLast ++ [base ++ ending] := by
  obtain ⟨front, base, hfront, hbase, rfl⟩ := exists_name text
  refine ⟨base, hbase, fun ending hending => ?_⟩
  have hname : '/' ∉ (base ++ ending).toList := by simpa using ⟨hbase, hending⟩
  rw [String.append_assoc, pieces_name hfront hname, pieces_name hfront hbase, List.dropLast_concat]

/-! ## The name of a file -/

/-- The empty piece and the dot are no steps. -/
theorem ofPiece?_eq_none_iff {piece : String} :
    ofPiece? piece = none ↔ piece = "" ∨ piece = "." := by
  unfold ofPiece?
  constructor
  · intro h
    by_contra hno
    rw [if_neg hno] at h
    split at h <;> cases h
  · intro h
    rw [if_pos h]

/-- A piece that is a name is read as it is. -/
theorem ofPiece?_eq_name {piece name : String} (h : ofPiece? piece = some (.name name)) :
    piece = name ∧ name ≠ "" ∧ name ≠ "." ∧ name ≠ ".." := by
  rcases ofPiece?_cases h with hparent | ⟨hname, hplain⟩
  · cases hparent
  · cases hname
    exact ⟨rfl, hplain⟩

/-- Nothing but an inner component can be the name at the end. -/
theorem fileName?_eq_some_iff_inner {path name : String} :
    fileName? path = some name ↔ (inner path).getLast? = some (.name name) := by
  have hfront : (front path).getLast? ≠ some (.name name) := by
    unfold front
    split
    · simp
    · split <;> simp
  rw [fileName?_eq_some_iff_getLast?, components_eq_front_append_inner, List.getLast?_append]
  cases hlast : (inner path).getLast? with
  | none => simpa using hfront
  | some c => simp

/-- A path of empty pieces and dots has no steps. -/
theorem inner_of_says_nothing {rest : String}
    (h : ∀ piece ∈ pieces rest, piece = "" ∨ piece = ".") : inner rest = [] := by
  unfold inner
  rw [List.filterMap_eq_nil_iff]
  exact fun piece hpiece => ofPiece?_eq_none_iff.mpr (h piece hpiece)

/-- A path ends in a name exactly if the name is written in it, and behind the name nothing that
says anything. -/
theorem fileName?_eq_some_iff {path name : String} : fileName? path = some name ↔
    PlainName name ∧ ∃ front tail, EndsAtSlash front ∧ SaysNothing tail ∧
      path = front ++ name ++ tail := by
  rw [fileName?_eq_some_iff_inner]
  constructor
  · intro h
    unfold inner at h
    rw [List.getLast?_filterMap, List.findSome?_eq_some_iff] at h
    obtain ⟨after, piece, before, hreverse, hpiece, hafter⟩ := h
    obtain ⟨rfl, hempty, hdot, hup⟩ := ofPiece?_eq_name hpiece
    have hpieces : pieces path = (before.reverse ++ [piece]) ++ after.reverse := by
      rw [← List.reverse_inj, hreverse]
      simp
    have hslash : '/' ∉ piece.toList := no_slash_of_mem_pieces (by rw [hpieces]; simp)
    obtain ⟨whole, tail, rfl, hwhole, htail⟩ : ∃ whole tail, path = whole ++ tail ∧
        pieces whole = before.reverse ++ [piece] ∧ SaysNothing tail := by
      by_cases hend : after = []
      · rw [hend, List.reverse_nil, List.append_nil] at hpieces
        exact ⟨path, "", String.append_empty.symm, hpieces, .inl rfl⟩
      · obtain ⟨whole, rest, rfl, hwhole, hrest⟩ :=
          exists_slash_of_pieces hpieces (by simp) (by simpa using hend)
        refine ⟨whole, "/" ++ rest, String.append_assoc, hwhole, .inr ⟨rest, rfl, ?_⟩⟩
        intro other hother
        rw [hrest, List.mem_reverse] at hother
        exact ofPiece?_eq_none_iff.mp (hafter other hother)
    obtain ⟨front, name, hfront, hname, rfl⟩ := exists_name whole
    rw [pieces_name hfront hname] at hwhole
    have hlast : name = piece := by simpa using (List.append_inj' hwhole rfl).2
    exact ⟨⟨hempty, hdot, hup, hslash⟩, front, tail, hfront, htail, by rw [hlast]⟩
  · rintro ⟨hplain, front, tail, hfront, htail, rfl⟩
    have hname : (inner (front ++ name)).getLast? = some (.name name) := by
      unfold inner
      rw [pieces_name hfront hplain.no_slash, List.filterMap_append,
        List.filterMap_cons_some (ofPiece?_plain hplain)]
      exact List.getLast?_concat
    rcases htail with rfl | ⟨rest, rfl, hrest⟩
    · rwa [String.append_empty]
    · rw [← String.append_assoc, inner_append_slash, inner_of_says_nothing hrest, List.append_nil]
      exact hname

/-! ## The extension of a name -/

/-- A name without dots has no extension. -/
theorem nameExtension?_of_notMem {name : List Char} (h : '.' ∉ name) :
    nameExtension? name = none := by
  obtain ⟨-, hdrop⟩ := Text.takeWhile_dropWhile_of_notMem (mt List.mem_reverse.mp h)
  unfold nameExtension?
  dsimp only
  rw [hdrop]
  rfl

/-- What follows the last dot is the extension, unless nothing stands before the dot. -/
theorem nameExtension?_append (stem : List Char) {extension : List Char} (h : '.' ∉ extension) :
    nameExtension? (stem ++ '.' :: extension) = if stem = [] then none else some extension := by
  have hreverse : (stem ++ '.' :: extension).reverse =
      extension.reverse ++ '.' :: stem.reverse := by
    simp
  obtain ⟨htake, hdrop⟩ :=
    Text.takeWhile_dropWhile_bne (mt List.mem_reverse.mp h) stem.reverse
  unfold nameExtension?
  dsimp only
  rw [hreverse, htake, hdrop, List.reverse_reverse]
  cases stem with
  | nil => rfl
  | cons c cs => simp

/-- An extension is what follows the last dot, which does not stand in front. -/
theorem nameExtension?_eq_some_iff {name extension : List Char} :
    nameExtension? name = some extension ↔
      ∃ stem, stem ≠ [] ∧ '.' ∉ extension ∧ name = stem ++ '.' :: extension := by
  constructor
  · intro h
    by_cases hdot : '.' ∈ name.reverse
    · obtain ⟨ending, stem, hname, hending⟩ := List.eq_append_cons_of_mem hdot
      have hwhole : name = stem.reverse ++ '.' :: ending.reverse := by
        rw [← List.reverse_inj, hname]
        simp
      rw [hwhole, nameExtension?_append _ (by simpa using hending)] at h
      by_cases hstem : stem.reverse = []
      · rw [if_pos hstem] at h
        cases h
      · rw [if_neg hstem] at h
        obtain rfl := Option.some.inj h
        exact ⟨stem.reverse, hstem, by simpa using hending, hwhole⟩
    · rw [nameExtension?_of_notMem (by simpa using hdot)] at h
      cases h
  · rintro ⟨stem, hstem, hdot, rfl⟩
    rw [nameExtension?_append stem hdot, if_neg hstem]

/-- The extension of a path is that of the name at its end. -/
theorem extension?_eq_some_iff {path extension : String} : extension? path = some extension ↔
    ∃ stem, stem ≠ "" ∧ '.' ∉ extension.toList ∧
      fileName? path = some (stem ++ "." ++ extension) := by
  unfold extension?
  rw [Option.bind_eq_some_iff]
  constructor
  · rintro ⟨name, hname, hextension⟩
    obtain ⟨ending, hending, rfl⟩ := Option.map_eq_some_iff.mp hextension
    obtain ⟨stem, hstem, hdot, hwhole⟩ := nameExtension?_eq_some_iff.mp hending
    refine ⟨String.ofList stem, ?_, by simpa using hdot, ?_⟩
    · intro he
      apply hstem
      rw [← String.toList_eq_nil_iff, String.toList_ofList] at he
      exact he
    · rw [hname, Option.some_inj, ← String.toList_inj, hwhole]
      simp
  · rintro ⟨stem, hstem, hdot, hname⟩
    refine ⟨_, hname, Option.map_eq_some_iff.mpr ⟨extension.toList, ?_, String.ofList_toList⟩⟩
    apply nameExtension?_eq_some_iff.mpr
    exact ⟨stem.toList, mt String.toList_eq_nil_iff.mp hstem, hdot, by simp⟩

end PagePreview.Path
