import PagePreview.Fixture.Basic
import PagePreview.Proofs.FileNames
import PagePreview.Proofs.LetterCase

/-!
# How a fixture is asked for

The documented form of the path of a fixture is the pattern `^/(test|mock)/(.*\.(js|json))$`, in any
case. The name at the end of a path decides instead: it may be followed by what says nothing, and a
name that is an extension alone asks for nothing. Apart from that the two agree.
-/

namespace PagePreview

/-- How the names of a kind of fixtures end, in lower case. -/
def FixtureKind.extension : FixtureKind → String
  | .json => "json"
  | .script => "js"

namespace FixtureRef

/-- A word below which fixtures are asked for. -/
def IsPlace (word : String) : Prop :=
  Ascii.sameIgnoringCase word "test" = true ∨ Ascii.sameIgnoringCase word "mock" = true

/-- A path leads from such a word to the path of a fixture. -/
def IsBelowPlace (path below : String) : Prop :=
  ∃ place, IsPlace place ∧ path = "/" ++ place ++ "/" ++ below

/-- What the documented pattern matches of a path without line breaks, with its second group as the
path of the fixture and the kind for which the third one stands. -/
structure Matched (path : String) (fixture : FixtureRef) : Prop where
  /-- The path leads below a word. -/
  place : IsBelowPlace path fixture.path
  /-- A dot and the extension stand at the end. -/
  ending : ∃ front extension, fixture.path = front ++ "." ++ extension ∧
    Ascii.sameIgnoringCase extension fixture.kind.extension = true

/-- A path asks for a fixture by the name at its end, with some text behind the name. -/
structure Asked (path : String) (fixture : FixtureRef) (tail : String) : Prop where
  /-- The path leads below a word. -/
  place : IsBelowPlace path fixture.path
  /-- A dot and the extension stand at the end of the name, and something before them. -/
  name : ∃ front stem extension, fixture.path = front ++ (stem ++ "." ++ extension) ++ tail ∧
    Path.EndsAtSlash front ∧ stem ≠ "" ∧ '/' ∉ stem.toList ∧
    Ascii.sameIgnoringCase extension fixture.kind.extension = true
  /-- What stands behind the name says nothing. -/
  tail : Path.SaysNothing tail

/-- The name at the end of a path is an extension alone. -/
structure Bare (path : String) (fixture : FixtureRef) : Prop where
  /-- The path leads below a word. -/
  place : IsBelowPlace path fixture.path
  /-- Nothing stands before the dot of the extension. -/
  name : ∃ front extension, fixture.path = front ++ ("." ++ extension) ∧ Path.EndsAtSlash front ∧
    Ascii.sameIgnoringCase extension fixture.kind.extension = true

/-! ## The word in front -/

/-- What follows a front that is there in some case. -/
theorem dropFront?_eq_some_iff {front : String} {cs rest : List Char} :
    dropFront? front cs = some rest ↔
      ∃ head, head.map Ascii.lower = front.toList ∧ cs = head ++ rest := by
  unfold dropFront?
  constructor
  · intro h
    by_cases hhead : (cs.take front.length).map Ascii.lower = front.toList
    · rw [if_pos hhead] at h
      exact ⟨_, hhead, by rw [← Option.some.inj h, List.take_append_drop]⟩
    · rw [if_neg hhead] at h
      cases h
  · rintro ⟨head, hhead, rfl⟩
    have hlength : front.length = head.length := by
      rw [← String.length_toList, ← hhead, List.length_map]
    rw [hlength, List.take_left, List.drop_left, if_pos hhead]

/-- A word between slashes is found in any case. -/
theorem dropFront?_word_iff {path below : String} (word : String)
    (hword : word.toList.map Ascii.lower = word.toList) :
    dropFront? ("/" ++ word ++ "/") path.toList = some below.toList ↔
      ∃ place, Ascii.sameIgnoringCase place word = true ∧ path = "/" ++ place ++ "/" ++ below := by
  have hfront : ("/" ++ word ++ "/").toList = '/' :: (word.toList ++ ['/']) := by simp
  rw [dropFront?_eq_some_iff, hfront]
  constructor
  · rintro ⟨head, hhead, hpath⟩
    obtain ⟨first, others, rfl, hfirst, hothers⟩ := List.map_eq_cons_iff.mp hhead
    obtain ⟨place, final, rfl, hplace, hfinal⟩ := List.map_eq_append_iff.mp hothers
    obtain ⟨last, rfl, hlast⟩ := List.map_eq_singleton_iff.mp hfinal
    refine ⟨String.ofList place, ?_, ?_⟩
    · rw [Ascii.sameIgnoringCase_iff, String.toList_ofList, hplace, hword]
    · rw [← String.toList_inj, hpath, Ascii.eq_slash_of_lower hfirst, Ascii.eq_slash_of_lower hlast]
      simp
  · rintro ⟨place, hplace, rfl⟩
    refine ⟨'/' :: (place.toList ++ ['/']), ?_, by simp⟩
    rw [Ascii.sameIgnoringCase_iff, hword] at hplace
    rw [List.map_cons, List.map_append, hplace]
    rfl

/-- What stands behind the word in front is read. -/
theorem findSome?_dropFront?_iff {path below : String} :
    (["/test/", "/mock/"].findSome? fun front => dropFront? front path.toList) =
      some below.toList ↔ IsBelowPlace path below := by
  constructor
  · intro h
    obtain ⟨front, hfront, hdrop⟩ := List.exists_of_findSome?_eq_some h
    rcases List.mem_cons.mp hfront with rfl | hfront
    · obtain ⟨place, hplace, hpath⟩ := (dropFront?_word_iff "test" rfl).mp hdrop
      exact ⟨place, .inl hplace, hpath⟩
    · obtain rfl := List.mem_singleton.mp hfront
      obtain ⟨place, hplace, hpath⟩ := (dropFront?_word_iff "mock" rfl).mp hdrop
      exact ⟨place, .inr hplace, hpath⟩
  · rintro ⟨place, hplace | hplace, hpath⟩
    · have htest : dropFront? "/test/" path.toList = some below.toList :=
        (dropFront?_word_iff "test" rfl).mpr ⟨place, hplace, hpath⟩
      rw [List.findSome?_cons, htest]
    · have hmock : dropFront? "/mock/" path.toList = some below.toList :=
        (dropFront?_word_iff "mock" rfl).mpr ⟨place, hplace, hpath⟩
      rw [List.findSome?_cons, List.findSome?_cons, hmock]
      cases htest : dropFront? "/test/" path.toList with
      | none => rfl
      | some other =>
        -- Both words have four letters, so they would stand at the same place.
        obtain ⟨head, hhead, hcut⟩ := dropFront?_eq_some_iff.mp hmock
        obtain ⟨head', hhead', hcut'⟩ := dropFront?_eq_some_iff.mp htest
        have hlength := congrArg List.length hhead
        have hlength' := congrArg List.length hhead'
        rw [List.length_map] at hlength hlength'
        have hsame := (List.append_inj (hcut.symm.trans hcut') (hlength.trans hlength'.symm)).1
        rw [hsame, hhead'] at hhead
        exact absurd hhead (by decide)

/-! ## The name at the end -/

/-- An extension stands for a kind if it is that of the kind, in any case. -/
theorem kindOf?_eq_some_iff {extension : String} {kind : FixtureKind} :
    kindOf? extension = some kind ↔
      Ascii.sameIgnoringCase extension kind.extension = true := by
  have hdiffer : Ascii.sameIgnoringCase extension "js" = true →
      Ascii.sameIgnoringCase extension "json" ≠ true := by
    intro hjs hjson
    rw [Ascii.sameIgnoringCase_iff] at hjs hjson
    exact absurd (hjs.symm.trans hjson) (by decide)
  constructor
  · fun_cases kindOf? extension with
    | case1 hjson =>
      intro h
      obtain rfl := Option.some.inj h
      exact hjson
    | case2 _ hjs =>
      intro h
      obtain rfl := Option.some.inj h
      exact hjs
    | case3 => exact nofun
  · intro h
    unfold kindOf?
    cases kind with
    | json => exact if_pos h
    | script => exact (if_neg (hdiffer h)).trans (if_pos h)

/-- The path of a fixture and its kind are read from what stands behind the word in front. -/
theorem ofPath?_eq_some_iff_extension {path : String} {fixture : FixtureRef} :
    ofPath? path = some fixture ↔ IsBelowPlace path fixture.path ∧
      ∃ extension, Path.extension? fixture.path = some extension ∧
        Ascii.sameIgnoringCase extension fixture.kind.extension = true := by
  unfold ofPath?
  constructor
  · intro h
    obtain ⟨rest, hrest, hbelow⟩ := Option.bind_eq_some_iff.mp h
    obtain ⟨extension, hextension, hending⟩ := Option.bind_eq_some_iff.mp hbelow
    obtain ⟨kind, hkind, hread⟩ := Option.bind_eq_some_iff.mp hending
    obtain rfl := Option.some.inj hread
    refine ⟨findSome?_dropFront?_iff.mp ?_, extension, hextension, kindOf?_eq_some_iff.mp hkind⟩
    rw [String.toList_ofList]
    exact hrest
  · rintro ⟨hplace, extension, hextension, hkind⟩
    rw [findSome?_dropFront?_iff.mpr hplace, Option.bind_eq_bind, Option.bind_some,
      String.ofList_toList]
    dsimp only
    rw [hextension, Option.bind_eq_bind, Option.bind_some, kindOf?_eq_some_iff.mpr hkind]
    rfl

/-- A path leads to one fixture below a word at most. -/
theorem below_unique {path below below' : String} (h : IsBelowPlace path below)
    (h' : IsBelowPlace path below') : below = below' := by
  have hsame := (findSome?_dropFront?_iff.mpr h).symm.trans (findSome?_dropFront?_iff.mpr h')
  exact String.toList_inj.mp (Option.some.inj hsame)

section Extension

variable {stem extension : String} {kind : FixtureKind}
  (hextension : Ascii.sameIgnoringCase extension kind.extension = true)
include hextension

/-- An extension has at least two characters. -/
theorem two_le_length_extension : 2 ≤ extension.toList.length := by
  rw [Ascii.length_of_sameIgnoringCase hextension]
  cases kind <;> decide

/-- An extension has no dot. -/
theorem dot_notMem_extension : '.' ∉ extension.toList := by
  intro h
  have hmem := Ascii.lower_mem_of_sameIgnoringCase hextension h
  revert hmem
  cases kind <;> decide

/-- An extension has no slash. -/
theorem slash_notMem_extension : '/' ∉ extension.toList := by
  intro h
  have hmem := Ascii.lower_mem_of_sameIgnoringCase hextension h
  revert hmem
  cases kind <;> decide

/-- A name with such an extension is longer than what says nothing or leads up. -/
theorem plainName_extension (hstem : '/' ∉ stem.toList) :
    Path.PlainName (stem ++ "." ++ extension) := by
  apply Path.plainName_of_length
  · have hlength := two_le_length_extension hextension
    have hdot : ".".toList.length = 1 := rfl
    rw [String.toList_append, String.toList_append, List.length_append, List.length_append]
    omega
  · simpa using ⟨hstem, slash_notMem_extension hextension⟩

end Extension

/-! ## The two readings -/

/-- A path asks for the fixture that the name at its end says, whatever follows that says
nothing. -/
theorem ofPath?_eq_some_iff {path : String} {fixture : FixtureRef} :
    ofPath? path = some fixture ↔ ∃ tail, Asked path fixture tail := by
  rw [ofPath?_eq_some_iff_extension]
  constructor
  · rintro ⟨hplace, extension, hextension, hkind⟩
    obtain ⟨stem, hstem, -, hname⟩ := Path.extension?_eq_some_iff.mp hextension
    obtain ⟨hplain, front, tail, hfront, htail, hpath⟩ := Path.fileName?_eq_some_iff.mp hname
    have hslash : '/' ∉ stem.toList := fun h => hplain.no_slash (by simp [h])
    exact ⟨tail, hplace, ⟨front, stem, extension, hpath, hfront, hstem, hslash, hkind⟩, htail⟩
  · rintro ⟨tail, hplace, ⟨front, stem, extension, hpath, hfront, hstem, hslash, hkind⟩, htail⟩
    refine ⟨hplace, extension, Path.extension?_eq_some_iff.mpr ?_, hkind⟩
    refine ⟨stem, hstem, dot_notMem_extension hkind, Path.fileName?_eq_some_iff.mpr ?_⟩
    exact ⟨plainName_extension hkind hslash, front, tail, hfront, htail, hpath⟩

/-- The pattern matches the paths that end with the name, also if this is an extension alone. -/
theorem matched_iff {path : String} {fixture : FixtureRef} :
    Matched path fixture ↔ Asked path fixture "" ∨ Bare path fixture := by
  constructor
  · rintro ⟨hplace, front, extension, hpath, hkind⟩
    obtain ⟨directory, stem, hdirectory, hslash, rfl⟩ := Path.exists_name front
    by_cases hstem : stem = ""
    · refine .inr ⟨hplace, directory, extension, ?_, hdirectory, hkind⟩
      rw [hpath, hstem, String.append_empty, String.append_assoc]
    · refine .inl ⟨hplace, ⟨directory, stem, extension, ?_, hdirectory, hstem, hslash, hkind⟩,
        .inl rfl⟩
      rw [hpath, String.append_empty, String.append_assoc, String.append_assoc,
        String.append_assoc]
  · rintro (⟨hplace, ⟨front, stem, extension, hpath, -, -, -, hkind⟩, -⟩ |
      ⟨hplace, front, extension, hpath, -, hkind⟩)
    · refine ⟨hplace, front ++ stem, extension, ?_, hkind⟩
      rw [hpath, String.append_empty, String.append_assoc, String.append_assoc,
        String.append_assoc]
    · exact ⟨hplace, front, extension, by rw [hpath, String.append_assoc], hkind⟩

/-- An extension alone is a name without an extension. -/
theorem ofPath?_eq_none_of_bare {path : String} {fixture : FixtureRef} (h : Bare path fixture) :
    ofPath? path = none := by
  rw [Option.eq_none_iff_forall_ne_some]
  intro other hread
  obtain ⟨hplace, extension, hextension, -⟩ := ofPath?_eq_some_iff_extension.mp hread
  obtain ⟨hplace', front, ending, hpath, hfront, hkind⟩ := h
  obtain ⟨stem, hstem, hdot, hname⟩ := Path.extension?_eq_some_iff.mp hextension
  have hwhole : Path.fileName? other.path = some ("." ++ ending) := by
    rw [below_unique hplace hplace', Path.fileName?_eq_some_iff]
    have hplain : Path.PlainName ("" ++ "." ++ ending) := plainName_extension hkind (by decide)
    rw [String.empty_append] at hplain
    exact ⟨hplain, front, "", hfront, .inl rfl, by rw [hpath, String.append_empty]⟩
  -- The dots are the last ones, so the texts before them are the same.
  have hsame : stem.toList ++ '.' :: extension.toList = [] ++ '.' :: ending.toList := by
    have htexts := congrArg String.toList (Option.some.inj (hname.symm.trans hwhole))
    simpa using htexts
  have hparts := congrArg Path.nameExtension? hsame
  rw [Path.nameExtension?_append _ hdot, Path.nameExtension?_append _ (dot_notMem_extension hkind),
    if_pos rfl, if_neg (mt String.toList_eq_nil_iff.mp hstem)] at hparts
  cases hparts

/-- Behind a slash or a dot that says nothing, no path ends with an extension. -/
theorem not_matched_of_tail {path tail : String} {fixture other : FixtureRef} (htail : tail ≠ "")
    (h : Asked path fixture tail) : ¬Matched path other := by
  rintro ⟨hplace, front, extension, hpath, hkind⟩
  obtain ⟨hplace', ⟨_, stem, ending, hpath', -⟩, hsilent⟩ := h
  obtain ⟨rest, rfl, hrest⟩ := hsilent.resolve_left htail
  obtain ⟨directory, name, hdirectory, hslash, rfl⟩ := Path.exists_name front
  have hplain := plainName_extension hkind hslash
  have hlast : (Path.pieces other.path).getLast? = some (name ++ "." ++ extension) := by
    have hwhole : other.path = directory ++ (name ++ "." ++ extension) := by
      rw [hpath, String.append_assoc, String.append_assoc, String.append_assoc]
    rw [hwhole, Path.pieces_name hdirectory hplain.no_slash, List.getLast?_concat]
  rw [below_unique hplace hplace', hpath', ← String.append_assoc, Path.pieces_append_slash,
    List.getLast?_append, List.getLast?_eq_some_getLast (Path.pieces_ne_nil rest), Option.some_or,
    Option.some_inj] at hlast
  have hmem := List.getLast_mem (Path.pieces_ne_nil rest)
  rw [hlast] at hmem
  rcases hrest _ hmem with hempty | hdot
  · exact hplain.ne_empty hempty
  · exact hplain.ne_dot hdot

/-- What a path asks for is decided by the name at its end. Of the paths that the documented pattern
matches, all ask for what the pattern says but those whose last name is an extension alone, which
ask for nothing. And a path behind whose last name something follows that says nothing asks for a
fixture although the pattern does not match it. -/
theorem fixture_is_asked_for_by_name (path : String) (fixture : FixtureRef) :
    (ofPath? path = some fixture ↔ ∃ tail, Asked path fixture tail) ∧
    (Matched path fixture ↔ Asked path fixture "" ∨ Bare path fixture) ∧
    (Bare path fixture → ofPath? path = none) ∧
    ∀ tail, tail ≠ "" → Asked path fixture tail → ∀ other, ¬Matched path other :=
  ⟨ofPath?_eq_some_iff, matched_iff, ofPath?_eq_none_of_bare,
    fun _ htail h _ => not_matched_of_tail htail h⟩

/-- The two readings differ: a slash behind the name is accepted. -/
theorem slash_behind_name_is_accepted :
    ¬∀ (path : String) (fixture : FixtureRef), '\n' ∉ path.toList →
      (ofPath? path = some fixture ↔ Matched path fixture) := by
  intro h
  have hplace : IsBelowPlace "/test/a.json/" "a.json/" := ⟨"test", .inl rfl, rfl⟩
  have hasked : Asked "/test/a.json/" ⟨"a.json/", .json⟩ "/" :=
    ⟨hplace, ⟨"", "a", "json", rfl, .inl rfl, by decide, by decide, rfl⟩, .inr ⟨"", rfl, by decide⟩⟩
  have hmatched := (h _ _ (by decide)).mp (ofPath?_eq_some_iff.mpr ⟨"/", hasked⟩)
  exact not_matched_of_tail (by decide) hasked hmatched

example : ofPath? "/MOCK/ajax.JS/." = some ⟨"ajax.JS/.", .script⟩ := by decide

example : ofPath? "/test/.json" = none := by decide

end FixtureRef

end PagePreview
