import PagePreview.Proofs.PlainPaths
import PagePreview.Rule.Watcher

/-!
# Where paths lead

There are no links on the disk, so the text of a path says where it leads: down by a name, up by two
dots. Following a path from directory to directory finds out whether it leads anywhere, but never
ends elsewhere, and what it leads to is there. A path of components may be written out and read
again without loss.
-/

namespace PagePreview

namespace Path

/-- Where a component leads from a place. -/
def Component.step (l : Location) : Component → Location
  | .root => []
  | .current => l
  | .parent => l.dropLast
  | .name s => l ++ [s]

/-- Where components lead from a place, one after another. -/
def walk (l : Location) (cs : List Component) : Location := cs.foldl Component.step l

/-- Components are walked one after another. -/
theorem walk_append (l : Location) (cs ds : List Component) :
    walk l (cs ++ ds) = walk (walk l cs) ds := List.foldl_append

/-- Names lead down. -/
theorem walk_names (l names : Location) : walk l (names.map .name) = l ++ names := by
  induction names generalizing l with
  | nil => simp [walk]
  | cons name rest ih =>
    have hrest := ih (l ++ [name])
    rw [List.append_assoc] at hrest
    exact hrest

/-- A dot leads nowhere. -/
theorem walk_filter_current (l : Location) (cs : List Component) :
    walk l (cs.filter (· != .current)) = walk l cs := by
  induction cs generalizing l with
  | nil => rfl
  | cons c rest ih =>
    by_cases hc : c = .current
    · rw [hc, List.filter_cons_of_neg (by simp)]
      exact ih l
    · rw [List.filter_cons_of_pos (by simpa using hc)]
      exact ih (c.step l)

/-! ## Components of paths -/

/-- A component that leads up or down. -/
def Component.IsStep (c : Component) : Prop := c = .parent ∨ ∃ name, PlainName name ∧ c = .name name

/-- Components as paths have them: the root or a dot may stand in front. -/
structure WellFormed (cs : List Component) : Prop where
  /-- What stands in front, and the steps after it. -/
  parts : ∃ front steps, cs = front ++ steps ∧
    (front = [.root] ∨ front = [.current] ∨ front = []) ∧ ∀ c ∈ steps, c.IsStep

/-- A piece between slashes stands for a step, if for anything. -/
theorem isStep_of_ofPiece? {piece : String} {c : Component} (hslash : '/' ∉ piece.toList)
    (h : ofPiece? piece = some c) : c.IsStep := by
  rcases ofPiece?_cases h with rfl | ⟨rfl, hempty, hdot, hdots⟩
  · exact .inl rfl
  · exact .inr ⟨piece, ⟨hempty, hdot, hdots, hslash⟩, rfl⟩

/-- So behind the front of a path there are only steps. -/
theorem isStep_of_mem_inner {path : String} {c : Component} (h : c ∈ inner path) : c.IsStep := by
  obtain ⟨piece, hpiece, hc⟩ := List.mem_filterMap.mp h
  exact isStep_of_ofPiece? (no_slash_of_mem_pieces hpiece) hc

/-- In front of a path stands the root, a dot or nothing. -/
theorem front_cases (path : String) :
    front path = [.root] ∨ front path = [.current] ∨ front path = [] := by
  unfold front
  split
  · exact .inl rfl
  · split
    · exact .inr (.inl rfl)
    · exact .inr (.inr rfl)

/-- What is read from a path is as paths have it. -/
theorem wellFormed_components (path : String) : WellFormed (components path) :=
  ⟨front path, inner path, components_eq_front_append_inner path, front_cases path,
    fun _ => isStep_of_mem_inner⟩

/-- What stands before the last component is as paths have it. -/
theorem WellFormed.dropLast {cs : List Component} (h : WellFormed cs) : WellFormed cs.dropLast := by
  obtain ⟨front, steps, rfl, hfront, hsteps⟩ := h
  cases steps with
  | nil =>
    rw [List.append_nil]
    refine ⟨[], [], ?_, .inr (.inr rfl), nofun⟩
    rcases hfront with rfl | rfl | rfl <;> rfl
  | cons c rest =>
    refine ⟨front, (c :: rest).dropLast, List.dropLast_append_of_ne_nil (List.cons_ne_nil c rest),
      hfront, ?_⟩
    exact fun d hd => hsteps d (List.dropLast_subset _ hd)

/-- What is above a path is what stands before its last component. -/
theorem eq_dropLast_of_parent? {path : String} {cs : List Component} (h : parent? path = some cs) :
    cs = (components path).dropLast := by
  unfold parent? at h
  cases hlast : (components path).getLast? with
  | none =>
    rw [hlast] at h
    cases h
  | some c =>
    rw [hlast] at h
    cases c with
    | root => cases h
    | _ => exact (Option.some.inj h).symm

/-- The directory of a file is written as paths are, and with a dot where nothing is written. -/
theorem wellFormed_directory (file : String) :
    WellFormed (directory file) ∧ directory file ≠ [] := by
  have hdot : WellFormed [.current] := ⟨[.current], [], rfl, .inr (.inl rfl), nofun⟩
  unfold directory
  cases hparent : parent? file with
  | none => exact ⟨hdot, List.cons_ne_nil _ _⟩
  | some cs =>
    cases cs with
    | nil => exact ⟨hdot, List.cons_ne_nil _ _⟩
    | cons c rest =>
      have hinit := (wellFormed_components file).dropLast
      rw [← eq_dropLast_of_parent? hparent] at hinit
      exact ⟨hinit, List.cons_ne_nil c rest⟩

/-- A step that is written out is read as this step. -/
theorem ofPiece?_text {c : Component} (h : c.IsStep) : ofPiece? c.text = some c := by
  rcases h with rfl | ⟨name, hplain, rfl⟩
  · decide
  · exact ofPiece?_plain hplain

/-- No slash is written inside a step. -/
theorem no_slash_text {c : Component} (h : c.IsStep) : '/' ∉ c.text.toList := by
  rcases h with rfl | ⟨name, hplain, rfl⟩
  · decide
  · exact hplain.no_slash

/-- Something is written for every step. -/
theorem text_ne_empty {c : Component} (h : c.IsStep) : c.text ≠ "" := by
  rcases h with rfl | ⟨name, hplain, rfl⟩
  · decide
  · exact hplain.ne_empty

/-- No step is written as a dot. -/
theorem text_ne_dot {c : Component} (h : c.IsStep) : c.text ≠ "." := by
  rcases h with rfl | ⟨name, hplain, rfl⟩
  · decide
  · exact hplain.ne_dot

/-- So steps that are written out are read again. -/
theorem filterMap_ofPiece?_text {steps : List Component} (h : ∀ c ∈ steps, c.IsStep) :
    (steps.map Component.text).filterMap ofPiece? = steps := by
  induction steps with
  | nil => rfl
  | cons c rest ih =>
    rw [List.map_cons, List.filterMap_cons_some (ofPiece?_text (h c List.mem_cons_self)),
      ih fun d hd => h d (List.mem_cons_of_mem c hd)]

/-- A text that is joined with slashes begins as its first part does, if that is not empty. -/
theorem head?_intercalate {first : String} (rest : List String) (h : first ≠ "") :
    (String.intercalate "/" (first :: rest)).toList.head? = first.toList.head? := by
  obtain ⟨c, cs, hcs⟩ := List.exists_cons_of_ne_nil (mt String.toList_eq_nil_iff.mp h)
  cases rest with
  | nil => simp
  | cons other others => simp [hcs]

/-- Components that are written out are read again. -/
theorem components_ofComponents {cs : List Component} (h : WellFormed cs) (hne : cs ≠ []) :
    components (ofComponents cs) = cs := by
  obtain ⟨front, steps, rfl, hfront, hsteps⟩ := h
  by_cases hroot : front ++ steps = [.root]
  · rw [hroot]
    decide
  have htext : ofComponents (front ++ steps) =
      String.intercalate "/" ((front ++ steps).map Component.text) := if_neg hroot
  have hslash : ∀ text ∈ (front ++ steps).map Component.text, '/' ∉ text.toList := by
    intro text hmem
    obtain ⟨c, hc, rfl⟩ := List.mem_map.mp hmem
    rcases List.mem_append.mp hc with hc | hc
    · rcases hfront with rfl | rfl | rfl
      · rw [List.mem_singleton.mp hc]
        decide
      · rw [List.mem_singleton.mp hc]
        decide
      · cases hc
    · exact no_slash_text (hsteps c hc)
  have hpieces := pieces_intercalate (by simpa using hne) hslash
  have hinner := filterMap_ofPiece?_text hsteps
  rw [htext, components_eq_front_append_inner]
  unfold Path.front inner
  rw [hpieces]
  rcases hfront with rfl | rfl | rfl
  · cases steps with
    | nil => exact absurd rfl hroot
    | cons c rest =>
      have hhead : (String.intercalate "/" (([Component.root] ++ c :: rest).map
          Component.text)).toList.head? = some '/' := by simp [Component.text]
      rw [if_pos hhead]
      exact congrArg (Component.root :: ·) hinner
  · have hhead := head?_intercalate (steps.map Component.text) (by decide : "." ≠ "")
    have hrelative : ¬(String.intercalate "/" (([Component.current] ++ steps).map
        Component.text)).toList.head? = some '/' := by
      intro he
      exact absurd (hhead.symm.trans he) (by decide)
    rw [if_neg hrelative, if_pos (by rfl)]
    exact congrArg (Component.current :: ·) hinner
  · cases steps with
    | nil => exact absurd rfl hne
    | cons c rest =>
      have hstep := hsteps c List.mem_cons_self
      have hhead := head?_intercalate (rest.map Component.text) (text_ne_empty hstep)
      have hrelative : ¬(String.intercalate "/" (([] ++ c :: rest).map
          Component.text)).toList.head? = some '/' := by
        intro he
        exact no_slash_text hstep (List.mem_of_mem_head? (hhead.symm.trans he))
      have hdot : ¬(([] ++ c :: rest).map Component.text).head? = some "." := by
        intro he
        exact text_ne_dot hstep (Option.some.inj he)
      rw [if_neg hrelative, if_neg hdot]
      exact hinner

/-- A path that ends in a name leads from its directory by this name. -/
theorem components_of_fileName? {file name : String} (h : fileName? file = some name) :
    components file = (components file).dropLast ++ [.name name] := by
  obtain ⟨init, hinit⟩ := List.getLast?_eq_some_iff.mp (fileName?_eq_some_iff_getLast?.mp h)
  rw [hinit, List.dropLast_concat]

/-- The directory of a path that ends in a name is what stands before it, or the directory itself.
-/
theorem directory_of_fileName? {file name : String} (h : fileName? file = some name) :
    directory file =
      if (components file).dropLast = [] then [.current] else (components file).dropLast := by
  have hparent : parent? file = some (components file).dropLast := by
    unfold parent?
    rw [components_of_fileName? h, List.getLast?_concat]
  unfold directory
  rw [hparent]
  cases (components file).dropLast with
  | nil => rfl
  | cons c rest => rfl

/-- So such a path leads through its directory and then down by the name. -/
theorem walk_components {file name : String} (h : fileName? file = some name) (l : Location) :
    walk l (components file) = walk l (directory file) ++ [name] := by
  rw [components_of_fileName? h, walk_append, directory_of_fileName? h]
  by_cases hnil : (components file).dropLast = []
  · rw [if_pos hnil, hnil]
    rfl
  · rw [if_neg hnil]
    rfl

end Path

namespace Disk

open PagePreview.Path (walk ofPiece? pieces front)

variable {d : Disk} {l m : Location} {path : String}

/-- The place that a path names is found by walking its components. -/
theorem target_eq_walk (d : Disk) (path : String) :
    d.target path = walk d.home (Path.components path) := by
  have hstep : (fun (l : Location) (c : Path.Component) => match c with
      | .root => []
      | .current => l
      | .parent => l.dropLast
      | .name s => l ++ [s]) = Path.Component.step := by
    funext l c
    cases c <;> rfl
  exact congrArg (fun step => (Path.components path).foldl step d.home) hstep

/-- Where a piece leads from a directory. -/
inductive Enters (d : Disk) (l : Location) (piece : String) : Location → Prop
  /-- No piece, or a dot, leads nowhere. -/
  | here (hhere : piece = "" ∨ piece = ".") : Enters d l piece l
  /-- Two dots lead up. -/
  | up (hup : piece = "..") : Enters d l piece l.dropLast
  /-- A name that is not too long leads down to what is there. -/
  | down (hname : ¬(piece = "" ∨ piece = ".")) (hdown : piece ≠ "..")
      (hshort : ¬piece.utf8ByteSize > maxName) (hthere : (d.get? (l ++ [piece])).isSome) :
      Enters d l piece (l ++ [piece])

/-- A piece is followed from a directory only. -/
theorem enter_eq_ok_iff {piece : String} :
    d.enter l piece = .ok m ↔ d.get? l = some .directory ∧ d.Enters l piece m := by
  unfold enter
  cases hnode : d.get? l with
  | none => simp
  | some node =>
    cases node with
    | file content => simp
    | directory =>
      dsimp only
      rw [and_iff_right rfl]
      constructor
      · intro h
        by_cases hhere : piece = "" ∨ piece = "."
        · rw [if_pos hhere] at h
          cases h
          exact .here hhere
        rw [if_neg hhere] at h
        by_cases hup : piece = ".."
        · rw [if_pos hup] at h
          cases h
          exact .up hup
        rw [if_neg hup] at h
        by_cases hlong : piece.utf8ByteSize > maxName
        · rw [if_pos hlong] at h
          cases h
        rw [if_neg hlong] at h
        by_cases hthere : (d.get? (l ++ [piece])).isSome
        · rw [if_pos hthere] at h
          cases h
          exact .down hhere hup hlong hthere
        · rw [if_neg hthere] at h
          cases h
      · intro h
        cases h with
        | here hhere => rw [if_pos hhere]
        | up hup =>
          rw [hup]
          rfl
        | down hname hdown hshort hthere =>
          rw [if_neg hname, if_neg hdown, if_neg hshort, if_pos hthere]

/-- A piece leads where its text says. -/
theorem Enters.eq_walk {piece : String} (h : d.Enters l piece m) :
    m = walk l (ofPiece? piece).toList := by
  unfold ofPiece?
  cases h with
  | here hhere =>
    rw [if_pos hhere]
    rfl
  | up hup =>
    rw [hup]
    rfl
  | down hname hdown hshort hthere =>
    rw [if_neg hname, if_neg hdown]
    rfl

/-- So what can be followed is followed from a directory to the place that its text says. -/
theorem enter_eq_ok {piece : String} (h : d.enter l piece = .ok m) :
    d.get? l = some .directory ∧ m = walk l (ofPiece? piece).toList :=
  ⟨(enter_eq_ok_iff.mp h).1, (enter_eq_ok_iff.mp h).2.eq_walk⟩

/-- Pieces that are followed one after another lead where their text says. -/
theorem follow_eq_ok {ps : List String} (h : ps.foldlM d.enter l = .ok m) :
    m = walk l (ps.filterMap ofPiece?) := by
  induction ps generalizing l with
  | nil =>
    cases h
    rfl
  | cons piece rest ih =>
    rw [List.foldlM_cons] at h
    cases hfirst : d.enter l piece with
    | error e =>
      rw [hfirst] at h
      cases h
    | ok next =>
      rw [hfirst] at h
      have hrest := ih h
      have hnext := (enter_eq_ok hfirst).2
      have hcut : (piece :: rest).filterMap ofPiece? =
          (ofPiece? piece).toList ++ rest.filterMap ofPiece? := by
        cases hpiece : ofPiece? piece with
        | none => rw [List.filterMap_cons_none hpiece]; rfl
        | some c => rw [List.filterMap_cons_some hpiece]; rfl
      rw [hcut, Path.walk_append, ← hnext]
      exact hrest

/-- The place from which the pieces of a path are followed. -/
def origin (d : Disk) (path : String) : Location :=
  if path.toList.head? = some '/' then [] else d.home

/-- A path that leads somewhere leads there piece by piece. -/
theorem follow_of_locate (h : d.locate path = .ok l) :
    (pieces path).foldlM d.enter (d.origin path) = .ok l := by
  unfold locate at h
  by_cases hzero : path.toList.contains '\x00'
  · rw [if_pos hzero] at h
    cases h
  rw [if_neg hzero] at h
  by_cases hempty : path = ""
  · rw [if_pos hempty] at h
    cases h
  rw [if_neg hempty] at h
  by_cases hlong : path.utf8ByteSize > maxPath
  · rw [if_pos hlong] at h
    cases h
  rw [if_neg hlong] at h
  exact h

/-- A piece leads to the same place on another disk if its directory is one there too, and if what
it leads to is there. -/
theorem enter_of_there {e : Disk} {piece : String} (h : d.enter l piece = .ok m)
    (hdir : d.get? l = some .directory → e.get? l = some .directory)
    (hthere : (d.get? m).isSome → (e.get? m).isSome) : e.enter l piece = .ok m := by
  obtain ⟨hdirectory, hleads⟩ := enter_eq_ok_iff.mp h
  refine enter_eq_ok_iff.mpr ⟨hdir hdirectory, ?_⟩
  cases hleads with
  | here hhere => exact .here hhere
  | up hup => exact .up hup
  | down hname hdown hshort hsome => exact .down hname hdown hshort (hthere hsome)

/-- A path leads to the same place on another disk if its pieces do. -/
theorem locate_of_follow {e : Disk} (hhome : e.home = d.home) (h : d.locate path = .ok l)
    (hfollow : (pieces path).foldlM e.enter (d.origin path) = .ok l) : e.locate path = .ok l := by
  unfold locate at h ⊢
  rw [hhome]
  by_cases hzero : path.toList.contains '\x00'
  · rw [if_pos hzero] at h
    cases h
  rw [if_neg hzero] at h ⊢
  by_cases hempty : path = ""
  · rw [if_pos hempty] at h
    cases h
  rw [if_neg hempty] at h ⊢
  by_cases hlong : path.utf8ByteSize > maxPath
  · rw [if_pos hlong] at h
    cases h
  rw [if_neg hlong]
  exact hfollow

/-- What stands in front of a path says from where its pieces are followed. -/
theorem walk_front (d : Disk) (path : String) : walk d.home (front path) = d.origin path := by
  unfold origin Path.front
  split
  · rfl
  · split <;> rfl

/-- A path that leads somewhere leads to the place that its text names. -/
theorem target_of_locate (h : d.locate path = .ok l) : d.target path = l := by
  have hfollow := follow_eq_ok (follow_of_locate h)
  rw [target_eq_walk, Path.components_eq_front_append_inner, Path.walk_append, walk_front]
  exact hfollow.symm

/-! ## What stands at the end of a path -/

/-- All that is above a place are directories. -/
def Rooted (d : Disk) (l : Location) : Prop :=
  ∀ n < l.length, d.get? (l.take n) = some .directory

/-- The root is a directory. -/
theorem get?_nil (d : Disk) : d.get? [] = some .directory := rfl

/-- What is above the working directory are directories. -/
theorem rooted_home (d : Disk) : d.Rooted d.home := by
  intro n _
  have hprefix : (d.home.take n).isPrefixOf d.home = true := by
    rw [List.isPrefixOf_iff_prefix]
    exact List.take_prefix n d.home
  unfold get?
  rw [if_pos hprefix]

/-- Paths are followed from below directories. -/
theorem rooted_origin (d : Disk) (path : String) : d.Rooted (d.origin path) := by
  unfold origin
  split
  · exact nofun
  · exact rooted_home d

/-- What is above a place is a directory. -/
theorem Rooted.dropLast_directory (h : d.Rooted l) : d.get? l.dropLast = some .directory := by
  cases l with
  | nil => exact get?_nil d
  | cons name rest =>
    rw [List.dropLast_eq_take]
    exact h _ (by simp)

/-- A piece that is followed from below directories leads to a place below directories. -/
theorem Rooted.enter (h : d.Rooted l) {piece : String} (henter : d.enter l piece = .ok m) :
    d.Rooted m := by
  obtain ⟨hdir, rfl⟩ := enter_eq_ok henter
  cases ofPiece? piece with
  | none => exact h
  | some c =>
    intro n hn
    cases c with
    | root => exact absurd hn (Nat.not_lt_zero n)
    | current => exact h n hn
    | parent =>
      change n < l.dropLast.length at hn
      change d.get? (l.dropLast.take n) = some .directory
      rw [List.length_dropLast] at hn
      rw [List.dropLast_eq_take, List.take_take, Nat.min_eq_left (by omega)]
      exact h n (by omega)
    | name s =>
      change n < (l ++ [s]).length at hn
      change d.get? ((l ++ [s]).take n) = some .directory
      rw [List.length_append, List.length_singleton] at hn
      rw [List.take_append_of_le_length (by omega)]
      by_cases hlast : n = l.length
      · rw [hlast, List.take_length]
        exact hdir
      · exact h n (by omega)

/-- So do many. -/
theorem Rooted.follow (h : d.Rooted l) {ps : List String} (hfollow : ps.foldlM d.enter l = .ok m) :
    d.Rooted m := by
  induction ps generalizing l with
  | nil =>
    cases hfollow
    exact h
  | cons piece rest ih =>
    rw [List.foldlM_cons] at hfollow
    cases hfirst : d.enter l piece with
    | error e =>
      rw [hfirst] at hfollow
      cases hfollow
    | ok next =>
      rw [hfirst] at hfollow
      exact ih (h.enter hfirst) hfollow

/-- The last piece is followed from a directory below directories. -/
theorem last_of_locate (h : d.locate path = .ok l) : ∃ init last m, pieces path = init ++ [last] ∧
    d.Rooted m ∧ d.enter m last = .ok l := by
  have hfollow := follow_of_locate h
  rcases List.eq_nil_or_concat (pieces path) with hnil | ⟨init, last, hpieces⟩
  · exact absurd hnil (Path.pieces_ne_nil path)
  rw [List.concat_eq_append] at hpieces
  rw [hpieces, List.foldlM_append] at hfollow
  cases hinit : init.foldlM d.enter (d.origin path) with
  | error e =>
    rw [hinit] at hfollow
    cases hfollow
  | ok m =>
    rw [hinit] at hfollow
    have hlast : [last].foldlM d.enter m = .ok l := hfollow
    have hsingle : [last].foldlM d.enter m = d.enter m last := by simp
    rw [hsingle] at hlast
    exact ⟨init, last, m, hpieces, (rooted_origin d path).follow hinit, hlast⟩

/-- Below directories, a piece leads to something. -/
theorem Rooted.get?_isSome (h : d.Rooted l) {piece : String} (henter : d.enter l piece = .ok m) :
    (d.get? m).isSome = true := by
  obtain ⟨hdir, hleads⟩ := enter_eq_ok_iff.mp henter
  cases hleads with
  | here hhere =>
    rw [hdir]
    rfl
  | up hup =>
    rw [h.dropLast_directory]
    rfl
  | down hname hdown hshort hthere => exact hthere

/-- Whatever a path leads to is there. -/
theorem lookup_isSome (d : Disk) (path : String) :
    (d.lookup path).toOption.isSome = (d.locate path).toOption.isSome := by
  unfold lookup
  cases hlocate : d.locate path with
  | error e => rfl
  | ok l =>
    obtain ⟨init, last, m, -, hrooted, henter⟩ := last_of_locate hlocate
    obtain ⟨node, hnode⟩ := Option.isSome_iff_exists.mp (hrooted.get?_isSome henter)
    dsimp only
    rw [hnode]
    rfl

/-- A path that leads to no directory ends in a name, in the directory of the path. -/
theorem named_of_locate (h : d.locate path = .ok l) (hl : d.get? l ≠ some .directory) :
    d.get? l.dropLast = some .directory ∧ ∃ name, Path.fileName? path = some name ∧
      l = walk d.home (Path.directory path) ++ [name] := by
  obtain ⟨init, last, m, hpieces, hrooted, henter⟩ := last_of_locate h
  obtain ⟨hdir, hm⟩ := enter_eq_ok henter
  have hlast : last ∈ pieces path := by
    rw [hpieces]
    exact List.mem_append_right _ List.mem_cons_self
  cases hpiece : ofPiece? last with
  | none =>
    rw [hpiece] at hm
    exact absurd (hm ▸ hdir) hl
  | some c =>
    rw [hpiece] at hm
    rcases Path.isStep_of_ofPiece? (Path.no_slash_of_mem_pieces hlast) hpiece
      with rfl | ⟨name, -, rfl⟩
    · exact absurd (hm ▸ hrooted.dropLast_directory) hl
    · have hinner : Path.inner path = init.filterMap ofPiece? ++ [.name name] := by
        unfold Path.inner
        rw [hpieces, List.filterMap_append, List.filterMap_cons_some hpiece]
        rfl
      have hname : Path.fileName? path = some name := by
        rw [Path.fileName?_eq_some_iff_getLast?, Path.components_eq_front_append_inner, hinner,
          ← List.append_assoc, List.getLast?_concat]
      have hdropped : l.dropLast = m := by
        rw [hm]
        exact List.dropLast_concat
      refine ⟨hdropped ▸ hdir, name, hname, ?_⟩
      rw [← target_of_locate h, target_eq_walk, Path.walk_components hname]

end Disk

end PagePreview
