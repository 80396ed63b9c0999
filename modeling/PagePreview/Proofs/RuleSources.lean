import Mathlib.Data.List.Forall2
import Mathlib.Logic.Relation
import PagePreview.Proofs.Words
import PagePreview.Rule.Loading

/-!
# Sources of rules stay apart

A rule is read from the words of its own line, and white space is all that can stand between two
lines. So sources may be read one by one or as one text, line ends may be written in either way,
and a line that is no rule may stand anywhere or be left out: the rules are the same, in the same
order. A file that cannot be read is like a file without rules.
-/

namespace PagePreview

namespace Rule

/-- A rule is read from the words of its line. -/
theorem ofLine?_congr {a b : String} (h : Text.words a = Text.words b) : ofLine? a = ofLine? b := by
  unfold ofLine?
  rw [h]

/-- A carriage return at the end of a line is white space. -/
theorem ofLine?_append_return (line : String) : ofLine? (line ++ "\r") = ofLine? line := by
  have hblank : Text.AllBlank "\r" := by decide
  exact ofLine?_congr (Text.words_append_blank line hblank)

end Rule

namespace RuleSet

/-! ## One source -/

/-- The rules of a source stand between its newlines. -/
theorem ofSource_eq_filterMap (source : String) :
    ofSource source =
      ((Text.splitWhere (· == '\n') source.toList).map String.ofList).filterMap Rule.ofLine? :=
  Text.filterMap_lines rfl Rule.ofLine?_append_return source

/-- A text without a newline is one line. -/
theorem ofSource_line {line : String} (h : '\n' ∉ line.toList) :
    ofSource line = (Rule.ofLine? line).toList := by
  have hpieces : Text.splitWhere (· == '\n') line.toList = [line.toList] := by
    apply Text.splitWhere_eq_singleton
    intro c hc
    have hne : c ≠ '\n' := fun he => h (he ▸ hc)
    simpa using hne
  rw [ofSource_eq_filterMap, hpieces, List.map_singleton, String.ofList_toList]
  cases hr : Rule.ofLine? line <;> simp [hr]

/-- Texts with a newline between them do not share a line. -/
theorem ofSource_append_newline (a b : String) :
    ofSource (a ++ "\n" ++ b) = ofSource a ++ ofSource b := by
  have htext : (a ++ "\n" ++ b).toList = a.toList ++ '\n' :: b.toList := by simp
  rw [ofSource_eq_filterMap, ofSource_eq_filterMap, ofSource_eq_filterMap, htext,
    Text.splitWhere_append_cons rfl, List.map_append, List.filterMap_append]

/-- A carriage return at the end of a text only lengthens its last line. -/
theorem ofSource_append_return (a : String) : ofSource (a ++ "\r") = ofSource a := by
  obtain ⟨pieces, final, hpieces, hmore⟩ :=
    Text.splitWhere_concat (p := (· == '\n')) (x := '\r') rfl a.toList
  have hfinal : Rule.ofLine? (String.ofList (final ++ ['\r'])) =
      Rule.ofLine? (String.ofList final) := by
    rw [String.ofList_append]
    exact Rule.ofLine?_append_return _
  have htext : (a ++ "\r").toList = a.toList ++ ['\r'] := by simp
  rw [ofSource_eq_filterMap, ofSource_eq_filterMap, htext, hpieces, hmore]
  simp only [List.map_append, List.filterMap_append, List.map_singleton, List.filterMap_cons,
    hfinal]

/-! ## Several sources -/

/-- The rules of one source are its own. -/
theorem ofSources_singleton (source : String) : ofSources [source] = ofSource source :=
  List.append_nil _

/-- Sources may be joined to one text. -/
theorem ofSource_intercalate (sources : List String) :
    ofSource (String.intercalate "\n" sources) = ofSources sources := by
  induction sources with
  | nil => rfl
  | cons source rest ih =>
    cases rest with
    | nil => rw [String.intercalate_singleton, ofSources_singleton]
    | cons next others =>
      rw [String.intercalate_cons_cons, ofSource_append_newline, ih]
      rfl

/-- A change to a text that leaves its rules as they are. -/
inductive Edit : String → String → Prop
  /-- A newline becomes a carriage return and a newline. -/
  | returned (a b : String) : Edit (a ++ "\n" ++ b) (a ++ "\r\n" ++ b)
  /-- Among the lines of the text comes a whole line that is no rule. -/
  | inserted {line : String} (before after : List String) (hl : '\n' ∉ line.toList)
      (hn : Rule.ofLine? line = none) :
      Edit (String.intercalate "\n" (before ++ after))
        (String.intercalate "\n" (before ++ line :: after))

/-- Texts that become one another by any number of edits, made or taken back. -/
def SameUpToEdits : String → String → Prop := Relation.EqvGen Edit

/-- An edit of this kind leaves the rules of a source as they are. -/
theorem Edit.ofSource_eq {a b : String} (h : Edit a b) : ofSource b = ofSource a := by
  cases h with
  | returned a b =>
    have htext : a ++ "\r\n" ++ b = a ++ "\r" ++ "\n" ++ b := by
      rw [← String.toList_inj]
      simp
    rw [htext, ofSource_append_newline, ofSource_append_return, ofSource_append_newline]
  | @inserted line before after hl hn =>
    have hline : ofSource line = [] := by
      rw [ofSource_line hl, hn]
      rfl
    rw [ofSource_intercalate, ofSource_intercalate]
    unfold ofSources
    rw [List.flatMap_append, List.flatMap_append, List.flatMap_cons, hline, List.nil_append]

/-- So do any number of them. -/
theorem SameUpToEdits.ofSource_eq {a b : String} (h : SameUpToEdits a b) :
    ofSource b = ofSource a := by
  induction h with
  | rel a b hedit => exact hedit.ofSource_eq
  | refl a => rfl
  | symm a b _ ih => exact ih.symm
  | trans a b c _ _ ihab ihbc => exact ihbc.trans ihab

/-- Each source may be edited by itself. -/
theorem ofSources_eq_of_edits {sources edited : List String}
    (h : List.Forall₂ SameUpToEdits sources edited) : ofSources edited = ofSources sources := by
  induction h with
  | nil => rfl
  | cons hedit _ ih =>
    unfold ofSources at ih ⊢
    rw [List.flatMap_cons, List.flatMap_cons, hedit.ofSource_eq, ih]

/-! ## Files -/

/-- The text of a file, if it can be read and is a text. -/
def textOf? (disk : Disk) (file : String) : Option String := (disk.readText file).toOption

/-- A file has no text if it cannot be read. -/
theorem textOf?_eq_none_iff {disk : Disk} {file : String} :
    textOf? disk file = none ↔ ∃ e, disk.readText file = .error e := by
  unfold textOf?
  cases disk.readText file <;> simp [Except.toOption]

/-- The rules of files are those of their texts. -/
theorem load_eq_ofSources (disk : Disk) (files : List String) :
    load disk files = ofSources (files.filterMap (textOf? disk)) := rfl

/-- The rules of more files come behind those of the others. -/
theorem load_append (disk : Disk) (before after : List String) :
    load disk (before ++ after) = load disk before ++ load disk after := by
  simp only [load_eq_ofSources, ofSources, List.filterMap_append, List.flatMap_append]

/-- Rules depend on the texts of their files. -/
theorem load_congr {disk other : Disk} {files : List String}
    (h : ∀ file ∈ files, textOf? other file = textOf? disk file) :
    load other files = load disk files := by
  rw [load_eq_ofSources, load_eq_ofSources, List.filterMap_congr h]

/-- The rules of one file are those of its text, if it has one. -/
theorem load_singleton (disk : Disk) (file : String) :
    load disk [file] = ofSources (textOf? disk file).toList := by
  rw [load_eq_ofSources, List.filterMap_cons]
  cases textOf? disk file <;> rfl

/-- Sources may be read one by one or as one text, in which line ends are written in either way and
lines that are no rule come and go. The rules of a file stand at the place of the file, whatever
becomes of other files, and a file that cannot be read leaves its place empty. -/
theorem sources_stay_apart :
    (∀ sources : List String,
      ofSources sources = ofSources [String.intercalate "\n" sources] ∧
      ofSources sources = (sources.map fun source => ofSources [source]).flatten ∧
      (∀ text, SameUpToEdits (String.intercalate "\n" sources) text →
        ofSources [text] = ofSources sources) ∧
      (∀ edited, List.Forall₂ SameUpToEdits sources edited →
        ofSources edited = ofSources sources)) ∧
    (∀ (disk other : Disk) (before : List String) (file : String) (after : List String),
      (∀ f ∈ before ++ after, textOf? other f = textOf? disk f) →
      load other (before ++ file :: after) =
        load disk before ++ ofSources (textOf? other file).toList ++ load disk after ∧
      ((∃ e, other.readText file = .error e) →
        load other (before ++ file :: after) = load disk (before ++ after))) := by
  constructor
  · intro sources
    refine ⟨?_, ?_, ?_, fun edited => ofSources_eq_of_edits⟩
    · rw [ofSources_singleton, ofSource_intercalate]
    · simp only [ofSources_singleton]
      exact List.flatMap_def
    · intro text hedits
      rw [ofSources_singleton, hedits.ofSource_eq, ofSource_intercalate]
  · intro disk other before file after hsame
    have hbefore : load other before = load disk before :=
      load_congr fun f hf => hsame f (List.mem_append_left after hf)
    have hafter : load other after = load disk after :=
      load_congr fun f hf => hsame f (List.mem_append_right before hf)
    have hload : load other (before ++ file :: after) =
        load disk before ++ ofSources (textOf? other file).toList ++ load disk after := by
      rw [load_append, ← List.singleton_append, load_append, hbefore, hafter, load_singleton,
        List.append_assoc]
    refine ⟨hload, fun hunreadable => ?_⟩
    rw [hload, textOf?_eq_none_iff.mpr hunreadable, load_append]
    exact congrArg (· ++ load disk after) (List.append_nil _)

/-- A file with a rule, a file with anything, and another file with a rule. -/
def threeFiles (middle : Bytes) : Disk :=
  (((Disk.empty ["srv"]).write "a.conf" (Utf8.encode "rewrite ^ /a")).write "b.conf" middle).write
    "c.conf" (Utf8.encode "redirect ^ /b")

/-- Two rules stay as they are when a comment, a malformed rule and a carriage return come into
their text, and when the file between their files is no longer a text. -/
theorem sources_stay_apart_edited :
    SameUpToEdits (String.intercalate "\n" ["rewrite ^ /a", "redirect ^ /b"])
      "# rules\r\nrewrite ^ /a\nproxy ( /x\nredirect ^ /b" ∧
    ofSources ["# rules\r\nrewrite ^ /a\nproxy ( /x\nredirect ^ /b"] =
      ofSources ["rewrite ^ /a", "redirect ^ /b"] ∧
    (ofSources ["rewrite ^ /a", "redirect ^ /b"]).length = 2 ∧
    (∀ f ∈ ["a.conf"] ++ ["c.conf"],
      textOf? (threeFiles [0xFF]) f = textOf? (threeFiles []) f) ∧
    (∃ e, (threeFiles [0xFF]).readText "b.conf" = .error e) ∧
    load (threeFiles [0xFF]) ["a.conf", "b.conf", "c.conf"] =
      load (threeFiles []) ["a.conf", "c.conf"] := by
  obtain ⟨htexts, hfiles⟩ := sources_stay_apart
  have hmalformed : Edit (String.intercalate "\n" ["rewrite ^ /a", "redirect ^ /b"])
      (String.intercalate "\n" ["rewrite ^ /a", "proxy ( /x", "redirect ^ /b"]) :=
    .inserted ["rewrite ^ /a"] ["redirect ^ /b"] (by decide +kernel) (by decide +kernel)
  have hcomment : Edit
      (String.intercalate "\n" ["rewrite ^ /a", "proxy ( /x", "redirect ^ /b"])
      (String.intercalate "\n" ["# rules", "rewrite ^ /a", "proxy ( /x", "redirect ^ /b"]) :=
    .inserted [] _ (by decide +kernel) (by decide +kernel)
  have hreturn := Edit.returned "# rules" "rewrite ^ /a\nproxy ( /x\nredirect ^ /b"
  have hedits : SameUpToEdits (String.intercalate "\n" ["rewrite ^ /a", "redirect ^ /b"])
      "# rules\r\nrewrite ^ /a\nproxy ( /x\nredirect ^ /b" :=
    .trans _ _ _ (.rel _ _ hmalformed) (.trans _ _ _ (.rel _ _ hcomment) (.rel _ _ hreturn))
  have hkept : ∀ f ∈ ["a.conf"] ++ ["c.conf"],
      textOf? (threeFiles [0xFF]) f = textOf? (threeFiles []) f := by decide +kernel
  have hunreadable : ∃ e, (threeFiles [0xFF]).readText "b.conf" = .error e :=
    textOf?_eq_none_iff.mp (by decide +kernel)
  exact ⟨hedits, (htexts _).2.2.1 _ hedits, by decide +kernel, hkept, hunreadable,
    (hfiles _ _ ["a.conf"] "b.conf" ["c.conf"] hkept).2 hunreadable⟩

end RuleSet

end PagePreview
