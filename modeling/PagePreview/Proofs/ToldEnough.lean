import PagePreview.Proofs.DiskChanges
import PagePreview.Proofs.PathTargets
import PagePreview.Proofs.Responders
import PagePreview.Server.Knowledge

/-!
# A server that has been told enough

What a server has been told of a disk makes up a smaller disk: everything on it is on the real one
as well, and a path of which the server has been told leads to the same on both. So if nothing that
an attempt looked at is unknown, the answer is the one that the server would give if it saw all
files and all other servers by itself. And if everything is known that it would look at then, an
attempt asks for nothing more.
-/

namespace PagePreview

/-! ## Smaller disks -/

namespace Disk

/-- Everything on one disk is on another as well. -/
structure Within (small large : Disk) : Prop where
  /-- The working directory is the same. -/
  home : small.home = large.home
  /-- The same stands at every place where something is known to stand. -/
  nodes : ∀ l n, small.get? l = some n → large.get? l = some n

variable {small middle large : Disk} {l m : Location} {n : Node} {path : String}

/-- Every disk is within itself. -/
theorem Within.refl (d : Disk) : d.Within d := ⟨rfl, fun _ _ h => h⟩

/-- What is within a disk is within every larger one. -/
theorem Within.trans (h : small.Within middle) (h' : middle.Within large) : small.Within large :=
  ⟨h.home.trans h'.home, fun l n hn => h'.nodes l n (h.nodes l n hn)⟩

/-- A disk without files is within every disk with the same working directory. -/
theorem within_empty (d : Disk) : (Disk.empty d.home).Within d := by
  refine ⟨rfl, fun l n h => ?_⟩
  unfold get? empty at h
  by_cases hprefix : l.isPrefixOf d.home = true
  · rw [if_pos hprefix] at h
    unfold get?
    rw [if_pos hprefix]
    exact h
  · rw [if_neg hprefix] at h
    cases h

/-- A piece leads nowhere, up or down, as its text says. -/
theorem next_of_enter {d : Disk} {piece : String} (h : d.enter l piece = .ok m) :
    m = if piece = "" ∨ piece = "." then l
      else if piece = ".." then l.dropLast
      else l ++ [piece] := by
  cases (enter_eq_ok_iff.mp h).2 with
  | here hhere => rw [if_pos hhere]
  | up hup =>
    rw [hup]
    rfl
  | down hname hdown hshort hthere => rw [if_neg hname, if_neg hdown]

/-- Where a piece leads on a smaller disk, it leads on a larger one. -/
theorem Within.enter (h : small.Within large) {piece : String}
    (henter : small.enter l piece = .ok m) : large.enter l piece = .ok m := by
  refine enter_of_there henter (h.nodes l .directory) (fun hthere => ?_)
  obtain ⟨n, hn⟩ := Option.isSome_iff_exists.mp hthere
  rw [h.nodes m n hn]
  rfl

/-- So pieces that are followed on a smaller disk lead to the same place on a larger one. -/
theorem Within.follow (h : small.Within large) {pieces : List String}
    (hfollow : pieces.foldlM small.enter l = .ok m) : pieces.foldlM large.enter l = .ok m := by
  induction pieces generalizing l with
  | nil => exact hfollow
  | cons piece rest ih =>
    rw [List.foldlM_cons] at hfollow ⊢
    cases hfirst : small.enter l piece with
    | error e =>
      rw [hfirst] at hfollow
      cases hfollow
    | ok next =>
      rw [hfirst] at hfollow
      rw [h.enter hfirst]
      exact ih hfollow

/-- A path leads to what stands at its place. -/
theorem lookup_eq_ok_iff {d : Disk} :
    d.lookup path = .ok n ↔ ∃ l, d.locate path = .ok l ∧ d.get? l = some n := by
  unfold Disk.lookup
  cases hlocate : d.locate path with
  | error e => simp
  | ok l =>
    dsimp only
    cases hnode : d.get? l with
    | none => simp [hnode]
    | some node => simp [hnode]

/-- What a path leads to on a smaller disk, it leads to on a larger one. -/
theorem Within.lookup (h : small.Within large) (hlookup : small.lookup path = .ok n) :
    large.lookup path = .ok n := by
  obtain ⟨l, hlocate, hnode⟩ := lookup_eq_ok_iff.mp hlookup
  refine lookup_eq_ok_iff.mpr ⟨l, ?_, h.nodes l n hnode⟩
  exact locate_of_follow h.home.symm hlocate (h.follow (follow_of_locate hlocate))

end Disk

/-! ## Filling a disk with what has been told -/

namespace Knowledge

open Disk

variable {small large : Disk} {l m : Location} {n : Node}

/-- What is put at a location stands there. -/
theorem get?_fill (h : small.Within large) (hn : large.get? l = some n) :
    (fill small l n).get? l = some n := by
  unfold fill
  cases hnode : small.get? l with
  | some node =>
    cases hn.symm.trans (h.nodes l node hnode)
    exact hnode
  | none =>
    have hprefix : ¬l.isPrefixOf small.home = true := by
      intro hprefix
      unfold Disk.get? at hnode
      rw [if_pos hprefix] at hnode
      cases hnode
    rw [if_neg (by simp)]
    unfold Disk.get? put
    dsimp only
    rw [if_neg hprefix, List.find?_cons, beq_self_eq_true]
    rfl

/-- Nothing is lost by it. -/
theorem within_fill (d : Disk) (l : Location) (n : Node) : d.Within (fill d l n) := by
  unfold fill
  cases hnode : d.get? l with
  | some node => exact .refl d
  | none =>
    refine ⟨rfl, fun m node hm => ?_⟩
    have hne : m ≠ l := by
      rintro rfl
      cases hnode.symm.trans hm
    rw [if_neg (by simp), get?_put_of_ne d hne]
    exact hm

/-- What is put where it stands on a larger disk keeps the disk within that one. -/
theorem fill_within (h : small.Within large) (hn : large.get? l = some n) :
    (fill small l n).Within large := by
  refine ⟨?_, fun m node hm => ?_⟩
  · rw [← (within_fill small l n).home]
    exact h.home
  · by_cases hml : m = l
    · subst hml
      cases (get?_fill h hn).symm.trans hm
      exact hn
    · apply h.nodes m node
      unfold fill at hm
      by_cases hsome : (small.get? l).isSome
      · rw [if_pos hsome] at hm
        exact hm
      · rw [if_neg hsome, get?_put_of_ne small hml] at hm
        exact hm

/-- A path that leads somewhere on a larger disk leads to the same place on a smaller one once its
pieces have been laid out. -/
theorem follow_layOut {pieces : List String} (h : small.Within large)
    (hfollow : pieces.foldlM large.enter l = .ok m) (hn : large.get? m = some n) :
    (layOut small l pieces n).Within large ∧ small.Within (layOut small l pieces n) ∧
    pieces.foldlM (layOut small l pieces n).enter l = .ok m ∧
    (layOut small l pieces n).get? m = some n ∧ ((layOut small l pieces n).get? l).isSome := by
  induction pieces generalizing small l with
  | nil =>
    cases hfollow
    have hthere := get?_fill h hn
    refine ⟨fill_within h hn, within_fill small _ n, rfl, hthere, ?_⟩
    rw [layOut, hthere]
    rfl
  | cons piece rest ih =>
    rw [List.foldlM_cons] at hfollow
    cases hfirst : large.enter l piece with
    | error e =>
      rw [hfirst] at hfollow
      cases hfollow
    | ok next =>
      rw [hfirst] at hfollow
      have hdir := (enter_eq_ok hfirst).1
      obtain ⟨hwithin, hkept, hrest, hend, hnext⟩ := ih (fill_within h hdir) hfollow
      have hlaid : layOut small l (piece :: rest) n =
          layOut (fill small l .directory) next rest n := by
        rw [next_of_enter hfirst]
        rfl
      have hstart := hkept.nodes l .directory (get?_fill h hdir)
      rw [hlaid]
      refine ⟨hwithin, (within_fill small l .directory).trans hkept, ?_, hend, ?_⟩
      · rw [List.foldlM_cons, enter_of_there hfirst (fun _ => hstart) (fun _ => hnext)]
        exact hrest
      · rw [hstart]
        rfl

/-- What has been told of a path, truly, is found again on the disk that it is put onto. -/
theorem lookup_place (h : small.Within large) (path : String) :
    (place small path (large.lookup path).toOption).Within large ∧
    small.Within (place small path (large.lookup path).toOption) ∧
    ∀ n, large.lookup path = .ok n →
      (place small path (large.lookup path).toOption).lookup path = .ok n := by
  cases hlookup : large.lookup path with
  | error e => exact ⟨h, .refl small, nofun⟩
  | ok n =>
    obtain ⟨m, hlocate, hn⟩ := lookup_eq_ok_iff.mp hlookup
    have hfollow := follow_of_locate hlocate
    have hplace : place small path (Except.ok n : Except DiskError Node).toOption =
        layOut small (large.origin path) (Path.pieces path) n := by
      unfold place origin
      rw [h.home]
      rfl
    obtain ⟨hwithin, hkept, hlaid, hend, -⟩ := follow_layOut h hfollow hn
    rw [hplace]
    refine ⟨hwithin, hkept, fun n' hn' => ?_⟩
    cases hn'
    exact lookup_eq_ok_iff.mpr ⟨m, locate_of_follow hwithin.home hlocate hlaid, hend⟩

/-- So all that has been told, truly, is found again. -/
theorem lookup_foldl_place {files : List (String × Option Node)} (h : small.Within large)
    (hfiles : ∀ told ∈ files, told.2 = (large.lookup told.1).toOption) :
    (files.foldl (fun d told => place d told.1 told.2) small).Within large ∧
    small.Within (files.foldl (fun d told => place d told.1 told.2) small) ∧
    ∀ told ∈ files, ∀ n, large.lookup told.1 = .ok n →
      (files.foldl (fun d told => place d told.1 told.2) small).lookup told.1 = .ok n := by
  induction files generalizing small with
  | nil => exact ⟨h, .refl small, nofun⟩
  | cons first rest ih =>
    have htrue := hfiles first List.mem_cons_self
    obtain ⟨hwithin, hkept, hfound⟩ := lookup_place h first.1
    rw [← htrue] at hwithin hkept hfound
    obtain ⟨hall, hlater, hrest⟩ :=
      ih hwithin fun told htold => hfiles told (List.mem_cons_of_mem first htold)
    refine ⟨hall, hkept.trans hlater, fun told htold n hn => ?_⟩
    rcases List.mem_cons.mp htold with rfl | htold
    · exact hlater.lookup (hfound n hn)
    · exact hrest told htold n hn

/-- What has been told is true of a network and a disk. -/
structure Tells (k : Knowledge) (network : Network) (disk : Disk) : Prop where
  /-- The working directory. -/
  home : k.home = disk.home
  /-- What paths lead to. -/
  files : ∀ told ∈ k.files, told.2 = (disk.lookup told.1).toOption
  /-- What other servers answer. -/
  replies : ∀ told ∈ k.replies, told.2 = network told.1

variable {k : Knowledge} {network : Network} {disk : Disk}

/-- At first nothing has been told. -/
theorem tells_initial (network : Network) (disk : Disk) :
    Tells { home := disk.home } network disk := ⟨rfl, nofun, nofun⟩

/-- Looking at a path tells the truth. -/
theorem Tells.learnFile (h : k.Tells network disk) (path : String) :
    (k.learnFile path (disk.lookup path).toOption).Tells network disk := by
  refine ⟨h.home, fun told htold => ?_, h.replies⟩
  rcases List.mem_append.mp htold with htold | htold
  · exact h.files told htold
  · rw [List.mem_singleton.mp htold]

/-- So does asking another server. -/
theorem Tells.learnReply (h : k.Tells network disk) (sent : Outgoing) :
    (k.learnReply sent (network sent)).Tells network disk := by
  refine ⟨h.home, h.files, fun told htold => ?_⟩
  rcases List.mem_append.mp htold with htold | htold
  · exact h.replies told htold
  · rw [List.mem_singleton.mp htold]

/-- A path of which the server has been told leads to the same on what is known of the disk. -/
theorem Tells.lookup (h : k.Tells network disk) {path : String}
    (hknown : k.knows (.file path) = true) :
    (disk.lookup path).toOption = (k.disk.lookup path).toOption := by
  obtain ⟨told, htold, hpath⟩ := List.any_eq_true.mp hknown
  have hempty : (Disk.empty k.home).Within disk := h.home ▸ within_empty disk
  obtain ⟨hwithin, -, hfound⟩ := lookup_foldl_place hempty h.files
  cases hlookup : disk.lookup path with
  | ok n =>
    rw [← eq_of_beq hpath] at hlookup ⊢
    rw [← hfound told htold n hlookup]
    rfl
  | error e =>
    cases hknown : k.disk.lookup path with
    | error e' => rfl
    | ok n => cases hlookup.symm.trans (hwithin.lookup hknown)

/-- Another server of which the server has been told answers what is known. -/
theorem Tells.reply (h : k.Tells network disk) {sent : Outgoing}
    (hknown : k.knows (.exchange sent) = true) : network sent = k.network sent := by
  obtain ⟨told, htold, hsent⟩ := List.any_eq_true.mp hknown
  unfold Knowledge.network
  cases hfind : k.replies.find? (·.1 == sent) with
  | none => exact absurd hsent (List.find?_eq_none.mp hfind told htold)
  | some reply =>
    have hreply := h.replies reply (List.mem_of_find?_eq_some hfind)
    have hfound := List.find?_some hfind
    rw [← eq_of_beq hfound]
    exact hreply.symm

end Knowledge

/-! ## What an answer depends on -/

namespace Disk

variable {d e : Disk} {path : String} {n : Node}

/-- Two disks that agree on a path, apart from the reason why it leads nowhere, have the same node
there. -/
theorem lookup_of_toOption (h : (e.lookup path).toOption = (d.lookup path).toOption)
    (hd : d.lookup path = .ok n) : e.lookup path = .ok n := by
  rw [hd] at h
  cases he : e.lookup path with
  | error x =>
    rw [he] at h
    cases h
  | ok n' =>
    rw [he] at h
    cases h
    rfl

/-- Whether a path leads to a file is seen from what it leads to. -/
theorem isFile_of_toOption (h : (e.lookup path).toOption = (d.lookup path).toOption) :
    e.isFile path = d.isFile path := by
  unfold isFile
  cases hd : d.lookup path with
  | ok n => rw [lookup_of_toOption h hd]
  | error x =>
    cases he : e.lookup path with
    | error y => rfl
    | ok n => cases hd.symm.trans (lookup_of_toOption h.symm he)

/-- What stands in a file is seen from what its path leads to. -/
theorem lookup_of_isFile (hfile : d.isFile path = true)
    (h : (e.lookup path).toOption = (d.lookup path).toOption) : e.lookup path = d.lookup path := by
  cases hd : d.lookup path with
  | ok n => exact lookup_of_toOption h hd
  | error x =>
    unfold isFile at hfile
    rw [hd] at hfile
    cases hfile

/-- So is the text in it, if there is any. -/
theorem readText_of_toOption (h : (e.lookup path).toOption = (d.lookup path).toOption) :
    (e.readText path).toOption = (d.readText path).toOption := by
  have hfile := isFile_of_toOption h
  by_cases hd : d.isFile path = true
  · unfold readText
    rw [read_congr (lookup_of_isFile hd h)]
  · have hnone : ∀ {d : Disk}, ¬d.isFile path = true → (d.readText path).toOption = none := by
      intro d hno
      unfold isFile at hno
      unfold readText read
      cases hlookup : d.lookup path with
      | error x => rfl
      | ok n =>
        rw [hlookup] at hno
        cases n with
        | file content => exact absurd rfl hno
        | directory => rfl
    rw [hnone hd, hnone (hfile ▸ hd)]

end Disk

/-- Only files are read. -/
theorem Site.isFile_of_opened (site : Site) (r : Request) :
    (site.serve r).All fun e => ∀ path, e = .opened path → site.disk.isFile path = true := by
  have hdata : ∀ {name file : String}, site.dataFile? name = some file →
      site.disk.isFile file = true := by
    intro name file h
    obtain ⟨safe, -, dir, -, -, hfile⟩ := site.dataFile?_eq_some h
    exact hfile
  refine site.serve_all r ((site.preview_all r).mono ?_) ((site.script_all r).mono ?_) nofun
  · rintro e ⟨page, -, hdoes⟩ path rfl
    cases hdoes with
    | dataLooks hl => cases hl
    | dataOpened hf => exact hdata hf
    | scriptLooks hl => cases hl
  · rintro e hdoes path rfl
    cases hdoes with
    | looks hf hl => cases hl
    | opened hf hk => exact hdata hf.2

namespace Server

variable {network network' : Network} {disk disk' : Disk} {s : Server} {rules : RuleSet}

/-- The same is found out about something, whichever of two networks and disks is asked. -/
def SameAnswer (network network' : Network) (disk disk' : Disk) : Question → Prop
  | .file path => (disk'.lookup path).toOption = (disk.lookup path).toOption
  | .exchange sent => network' sent = network sent

/-- It makes no difference which of the two is asked first. -/
theorem SameAnswer.symm {q : Question} (h : SameAnswer network network' disk disk' q) :
    SameAnswer network' network disk' disk q := by
  cases q with
  | file path => exact Eq.symm h
  | exchange sent => exact Eq.symm h

/-- Only files are read to answer a request. -/
theorem isFile_of_opened {site : Site} {q : Request} {path : String}
    (he : .opened path ∈ (answer network site rules q).events) :
    site.disk.isFile path = true := by
  rw [answer_events] at he
  rcases List.mem_append.mp he with hmatch | hcarry
  · obtain ⟨action, hevent⟩ := noteMatch_events rules q.target _ hmatch
    cases hevent
  · cases hstep : (rules.plan q.target).apply q with
    | proceed q' =>
      rw [hstep] at hcarry
      exact site.isFile_of_opened q' _ hcarry path rfl
    | respond x =>
      rw [hstep] at hcarry
      cases hcarry
    | forward q' target =>
      rw [hstep] at hcarry
      cases List.mem_singleton.mp hcarry

/-- An answer depends on nothing but what is found out for it. -/
theorem answer_of_sameAnswers {q : Request}
    (h : ∀ e ∈ (answer network (s.siteOn disk) rules q).events, ∀ question,
      e.question? = some question → SameAnswer network network' disk disk' question) :
    answer network' (s.siteOn disk') rules q = answer network (s.siteOn disk) rules q := by
  refine answer_congr ⟨rfl, rfl, rfl⟩ (fun out succeeded he => h _ he _ rfl) ?_
  intro e he
  cases e with
  | tested path => exact Disk.isFile_of_toOption (h _ he _ rfl)
  | opened path =>
    exact Disk.read_congr (Disk.lookup_of_isFile (isFile_of_opened he) (h _ he _ rfl))
  | matched action => trivial
  | forwarded sent succeeded => trivial
  | augmented file r => rfl
  | rendered template => rfl
  | scripted file r => rfl
  | delegated r => rfl

/-- Neither do the rules. -/
theorem forRequest_of_sameAnswers
    (h : ∀ question ∈ s.ruleQuestions, SameAnswer network network' disk disk' question) :
    s.rules.forRequest disk' = s.rules.forRequest disk := by
  unfold ruleQuestions at h
  unfold RuleStore.forRequest
  cases hpolicy : s.rules.policy with
  | watch => rfl
  | startup => rfl
  | perRequest =>
    rw [hpolicy] at h
    have htexts : ∀ file ∈ s.rules.files,
        (disk'.readText file).toOption = (disk.readText file).toOption :=
      fun file hfile => Disk.readText_of_toOption (h _ (List.mem_map_of_mem hfile))
    dsimp only
    unfold RuleStore.reload RuleSet.load
    rw [List.filterMap_congr htexts]

/-- All that comes of a request depends on nothing but what is found out for it. -/
theorem handle_of_sameAnswers {fresh : Bytes} {r : Request}
    (hrules : ∀ question ∈ s.ruleQuestions, SameAnswer network network' disk disk' question)
    (hothers : ∀ e ∈ (s.handle network disk fresh r).1.events, ∀ question,
      e.question? = some question → SameAnswer network network' disk disk' question) :
    s.handle network' disk' fresh r = s.handle network disk fresh r := by
  have hstore := forRequest_of_sameAnswers hrules
  rw [handle_events] at hothers
  have hanswer := answer_of_sameAnswers hothers
  unfold siteOn rulesOn at hanswer
  unfold handle
  dsimp only
  rw [hstore, hanswer]

/-! ## Attempts -/

variable {k : Knowledge} {fresh : Bytes} {r : Request}

/-- Nothing is asked exactly if all rule files are known that are read for the request, and all
that was looked at for it. -/
theorem questions_eq_nil_iff : (s.attempt k fresh r).questions = [] ↔
    (∀ question ∈ s.ruleQuestions, k.knows question = true) ∧
    ∀ e ∈ (s.handle k.network k.disk fresh r).1.events, ∀ question,
      e.question? = some question → k.knows question = true := by
  have hquestions : (s.attempt k fresh r).questions =
      if (s.ruleQuestions.filter (!k.knows ·)).isEmpty then
        ((s.handle k.network k.disk fresh r).1.events.filterMap Event.question?).filter
          (!k.knows ·)
      else s.ruleQuestions.filter (!k.knows ·) := rfl
  rw [hquestions]
  by_cases hrules : s.ruleQuestions.filter (!k.knows ·) = []
  · have hknown : ∀ question ∈ s.ruleQuestions, k.knows question = true := by
      simpa using List.filter_eq_nil_iff.mp hrules
    rw [hrules, if_pos List.isEmpty_nil, and_iff_right hknown, List.filter_eq_nil_iff]
    simp only [List.mem_filterMap, Bool.not_eq_true', Bool.not_eq_false]
    constructor
    · exact fun h e he question hq => h question ⟨e, he, hq⟩
    · rintro h question ⟨e, he, hq⟩
      exact h e he question hq
  · rw [if_neg (by simpa using hrules)]
    constructor
    · exact fun h => absurd h hrules
    · rintro ⟨hknown, -⟩
      apply List.filter_eq_nil_iff.mpr
      simpa using hknown

/-- What is known is the same on what is known of the network and of the disk. -/
theorem sameAnswer_of_knows (h : k.Tells network disk) {question : Question}
    (hknown : k.knows question = true) : SameAnswer k.network network k.disk disk question := by
  cases question with
  | file path => exact h.lookup hknown
  | exchange sent => exact h.reply hknown

/-- The answer of an attempt that asks for nothing stands: it is the one that the server gives if it
sees the disk and the network of which it has been told, and so is what is done and what becomes of
the server. -/
theorem attempt_stands (h : k.Tells network disk) (hnone : (s.attempt k fresh r).questions = []) :
    (s.attempt k fresh r).answered = (s.handle network disk fresh r).1 ∧
    (s.attempt k fresh r).server = (s.handle network disk fresh r).2 := by
  obtain ⟨hrules, hothers⟩ := questions_eq_nil_iff.mp hnone
  rw [handle_of_sameAnswers (fun question hq => sameAnswer_of_knows h (hrules question hq))
    (fun e he question hq => sameAnswer_of_knows h (hothers e he question hq))]
  exact ⟨rfl, rfl⟩

/-- A server that has been told all that it would look at asks for nothing more. -/
theorem attempt_asks_nothing (h : k.Tells network disk)
    (hrules : ∀ question ∈ s.ruleQuestions, k.knows question = true)
    (hothers : ∀ e ∈ (s.handle network disk fresh r).1.events, ∀ question,
      e.question? = some question → k.knows question = true) :
    (s.attempt k fresh r).questions = [] := by
  have hsame := handle_of_sameAnswers
    (fun question hq => (sameAnswer_of_knows h (hrules question hq)).symm)
    (fun e he question hq => (sameAnswer_of_knows h (hothers e he question hq)).symm)
  rw [questions_eq_nil_iff, hsame]
  exact ⟨hrules, hothers⟩

end Server

end PagePreview
