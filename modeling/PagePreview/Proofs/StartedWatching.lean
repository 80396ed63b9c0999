import PagePreview.Proofs.LiveUpdates
import PagePreview.Proofs.RecognisedChanges
import PagePreview.Rule.Handoff

/-!
# Changes while the server starts

Between the moment when a rule file is read and the moment when its directory is registered, nobody
looks at it. A change of its text at that time is lost: it is not in the rules that were read, and
it is not reported. All other changes arrive. So if every change that was lost is followed by one of
a rule file that is reported, then the rules in force are those of the files as soon as nothing is
on its way; and otherwise they may stay old.
-/

namespace PagePreview

open PagePreview.Path (walk)

/-! ## Steps of the watcher, and changes that it does not see -/

namespace LiveRules

/-- Only an edit changes the files or adds a report. -/
theorem Step.kept {s t : LiveRules} {move : Move} (h : Step s move t)
    (nobody : ∀ l disk, move ≠ .edit l disk) : t.disk = s.disk ∧ t.changes ⊆ s.changes := by
  cases h with
  | edit change => exact absurd rfl (nobody _ _)
  | take oldest idle =>
    refine ⟨rfl, fun l hl => ?_⟩
    rw [oldest]
    exact List.mem_cons_of_mem _ hl
  | read running more => exact ⟨rfl, fun l hl => hl⟩
  | send running done => exact ⟨rfl, fun l hl => hl⟩
  | publish oldest => exact ⟨rfl, fun l hl => hl⟩

/-- A change that is not reported and leaves the texts of the rule files alone changes nothing that
is on its way. -/
theorem OnTheWay.of_unseen {s : LiveRules} {P : Location → Prop} (h : OnTheWay P s)
    (hs : Working s) {disk : Disk}
    (htexts : ∀ file ∈ s.watcher.files, RuleSet.textOf? disk file = RuleSet.textOf? s.disk file) :
    OnTheWay P { s with disk } := by
  refine h.imp_right fun hload => ?_
  have houtcome : outcome { s with disk } = s.outcome := outcome_edit (l := []) hs htexts
  rw [houtcome, hload]
  exact (RuleSet.load_congr htexts).symm

end LiveRules

namespace Handoff

open LiveRules (OnTheWay)
open RuleWatcher (directoriesOf ReportsTell)

variable {start disk : Disk} {files : List String} {s t : Handoff} {move : Move}
  {moves : List Move} {l : Location} {P : Location → Prop}

/-- A place that the path of a rule file names. -/
def NamedPlace (disk : Disk) (files : List String) (l : Location) : Prop :=
  ∃ file ∈ files, disk.Names file l

/-- The directories that are not registered. -/
def unregistered (s : Handoff) : List (List Path.Component) :=
  match s.stage with
  | .loading _ => directoriesOf s.live.watcher.files
  | .registering left => left
  | .serving => []
  | .unwatched => directoriesOf s.live.watcher.files

/-- The files that the server has read. -/
def read (s : Handoff) : List String :=
  match s.stage with
  | .loading r => s.live.watcher.files.take (s.live.watcher.files.length - r.left.length)
  | .registering _ => s.live.watcher.files
  | .serving => s.live.watcher.files
  | .unwatched => s.live.watcher.files

/-- A change comes too late for the server that reads the files, and too early for the watcher: it
gives another text to a file that was read and whose directory is not registered. -/
def Loses (s : Handoff) (disk : Disk) : Prop :=
  ∃ file ∈ s.read, Path.directory file ∈ s.unregistered ∧
    RuleSet.textOf? disk file ≠ RuleSet.textOf? s.live.disk file

/-! ## What holds at any time -/

/-- What may be relied on at any time. -/
structure Sound (start : Disk) (files : List String) (s : Handoff) : Prop where
  /-- The watcher and the loop do their work. -/
  working : s.live.Working
  /-- The rule files are the same. -/
  same_files : s.live.watcher.files = files
  /-- The directories are the same. -/
  disk : start.SameDirectories s.live.disk
  /-- The directories of the rule files are registered or not. -/
  registered : ∀ dir, dir ∈ directoriesOf files ↔
    dir ∈ s.live.watcher.directories ∨ dir ∈ s.unregistered
  /-- Registered directories are still there. -/
  found : ∀ dir ∈ s.live.watcher.directories, start.get? (walk start.home dir) = some .directory →
    s.live.disk.locate (Path.ofComponents dir) = .ok (walk start.home dir)
  /-- What was reported happened in a registered directory. -/
  watched : ∀ l ∈ s.live.changes, ∃ dir ∈ s.live.watcher.directories,
    walk start.home dir = l.dropLast
  /-- The watcher has nothing to do while the rule files are read for the first time. -/
  quiet : ∀ r, s.stage = .loading r → s.live.watcher.directories = [] ∧ s.live.changes = [] ∧
    s.live.reading = none ∧ s.live.sets = []

/-- A server that starts may rely on all of this. -/
theorem sound_ofStore (disk : Disk) (store : RuleStore) :
    Sound disk store.files (ofStore disk store) where
  working := LiveRules.working_registered _ disk store
  same_files := rfl
  disk := .refl disk
  registered := by
    intro dir
    unfold ofStore unregistered
    by_cases hfiles : store.files = []
    · simp [hfiles, LiveRules.registered]
    · simp [hfiles, LiveRules.registered]
  found := nofun
  watched := nofun
  quiet := fun _ _ => ⟨rfl, rfl, rfl, rfl⟩

namespace Sound

/-- A change of a file leaves the registered directories where they are. -/
theorem found_of_change (hs : Sound start files s) (change : Disk.FileChange l s.live.disk disk) :
    ∀ dir ∈ s.live.watcher.directories, start.get? (walk start.home dir) = some .directory →
      disk.locate (Path.ofComponents dir) = .ok (walk start.home dir) := by
  intro dir hdir hplace
  exact change.locate_directory (hs.found dir hdir hplace) ((hs.disk.directory _).mpr hplace)

/-- A change is only reported if it happens in a registered directory. -/
theorem exists_of_reported (hs : Sound start files s) (hhome : disk.home = start.home)
    {place : Location} (h : (s.live.watcher.reportDirectory? disk place).isSome) :
    ∃ dir ∈ s.live.watcher.directories, walk start.home dir = place := by
  obtain ⟨reported, hreported⟩ := Option.isSome_iff_exists.mp h
  obtain ⟨dir, hdir, hplace, -⟩ := RuleWatcher.exists_of_reportDirectory? hreported
  have hwalk := RuleWatcher.walk_of_locate ((hs.registered dir).mpr (.inl hdir)) hplace
  rw [hhome] at hwalk
  exact ⟨dir, hdir, hwalk⟩

/-- Once a directory is registered, the files have been read for the first time. -/
theorem not_loading (hs : Sound start files s) {dir : List Path.Component}
    (hdir : dir ∈ s.live.watcher.directories) (r : RuleReading) : s.stage ≠ .loading r := by
  intro hloading
  rw [(hs.quiet r hloading).1] at hdir
  cases hdir

/-- While the rule files are read for the first time, there is nothing to do for the watcher. -/
theorem not_loading_of_work (hs : Sound start files s) {m : LiveRules.Move} {live : LiveRules}
    (step : LiveRules.Step s.live m live) (nobody : ∀ l disk, m ≠ .edit l disk) (r : RuleReading) :
    s.stage ≠ .loading r := by
  intro hloading
  obtain ⟨-, hchanges, hreading, hsets⟩ := hs.quiet r hloading
  cases step with
  | edit change => exact absurd rfl (nobody _ _)
  | take oldest idle => cases hchanges.symm.trans oldest
  | read running more => cases hreading.symm.trans running
  | send running done => cases hreading.symm.trans running
  | publish oldest => cases hsets.symm.trans oldest

end Sound

/-! ## One step -/

namespace Sound

/-- A change of a file keeps what may be relied on. -/
theorem of_change (hs : Sound start files s) (change : Disk.FileChange l s.live.disk disk) :
    Sound start files { s with live := { s.live with disk } } where
  working := ⟨hs.working.running, hs.working.files⟩
  same_files := hs.same_files
  disk := hs.disk.trans change.sameDirectories
  registered := hs.registered
  found := hs.found_of_change change
  watched := hs.watched
  quiet := hs.quiet

/-- A change in a registered directory may be reported. -/
theorem report (hs : Sound start files s) {dir : List Path.Component}
    (hdir : dir ∈ s.live.watcher.directories) (hplace : walk start.home dir = l.dropLast) :
    Sound start files { s with live := { s.live with changes := s.live.changes ++ [l] } } where
  working := ⟨hs.working.running, hs.working.files⟩
  same_files := hs.same_files
  disk := hs.disk
  registered := hs.registered
  found := hs.found
  watched := by
    intro m hm
    rcases List.mem_append.mp hm with hm | hm
    · exact hs.watched m hm
    · cases List.mem_singleton.mp hm
      exact ⟨dir, hdir, hplace⟩
  quiet := fun r hloading => absurd hloading (hs.not_loading hdir r)

/-- The server may go on, as long as the same directories are registered and the watcher does not
come in before it is to. -/
theorem at_stage (hs : Sound start files s) {stage : Stage}
    (hregistered : unregistered { s with stage } = s.unregistered)
    (hquiet : ∀ r, stage = .loading r → ∃ r', s.stage = .loading r') :
    Sound start files { s with stage } where
  working := hs.working
  same_files := hs.same_files
  disk := hs.disk
  registered := by
    rw [hregistered]
    exact hs.registered
  found := hs.found
  watched := hs.watched
  quiet := by
    intro r hstage
    obtain ⟨r', hloading⟩ := hquiet r hstage
    exact hs.quiet r' hloading

/-- So does a set that is published. -/
theorem publish (hs : Sound start files s) (rules : RuleSet) : Sound start files
    { s with live := { s.live with loop := .ofStore (s.live.loop.store.replace rules) } } where
  working := ⟨rfl, hs.working.files⟩
  same_files := hs.same_files
  disk := hs.disk
  registered := hs.registered
  found := hs.found
  watched := hs.watched
  quiet := hs.quiet

/-- So does a directory that is registered. -/
theorem register (hs : Sound start files s) {dir : List Path.Component}
    {rest : List (List Path.Component)} (registering : s.stage = .registering (dir :: rest))
    (found : (s.live.disk.lookup (Path.ofComponents dir)).toOption.isSome) :
    Sound start files
      { live := { s.live with watcher := { s.live.watcher with
          directories := s.live.watcher.directories ++ [dir] } }
        stage := .registering rest } where
  working := ⟨hs.working.running, hs.working.files⟩
  same_files := hs.same_files
  disk := hs.disk
  registered := by
    intro d
    have hregistered := hs.registered d
    unfold unregistered at hregistered
    rw [registering] at hregistered
    simpa [unregistered, or_assoc] using hregistered
  found := by
    intro d hd hplace
    rcases List.mem_append.mp hd with hd | hd
    · exact hs.found d hd hplace
    · cases List.mem_singleton.mp hd
      have hdir : dir ∈ s.unregistered := by
        unfold unregistered
        rw [registering]
        exact List.mem_cons_self
      rw [Disk.lookup_isSome] at found
      cases hlocate : s.live.disk.locate (Path.ofComponents dir) with
      | error e =>
        rw [hlocate] at found
        cases found
      | ok place =>
        have hwalk := RuleWatcher.walk_of_locate ((hs.registered dir).mpr (.inr hdir)) hlocate
        rw [← hwalk, hs.disk.home]
  watched := by
    intro l hl
    obtain ⟨d, hd, hplace⟩ := hs.watched l hl
    exact ⟨d, List.mem_append_left _ hd, hplace⟩
  quiet := nofun

/-- So does what the watcher and the loop do. -/
theorem work (hs : Sound start files s) {m : LiveRules.Move} {live : LiveRules}
    (step : LiveRules.Step s.live m live) (nobody : ∀ l disk, m ≠ .edit l disk) :
    Sound start files { s with live } := by
  obtain ⟨hdisk, hchanges⟩ := step.kept nobody
  have hregistered := hs.registered
  unfold unregistered at hregistered
  exact {
    working := step.working hs.working
    same_files := by rw [step.watcher, hs.same_files]
    disk := by rw [hdisk]; exact hs.disk
    registered := by
      unfold unregistered
      rw [step.watcher]
      exact hregistered
    found := by rw [step.watcher, hdisk]; exact hs.found
    watched := by
      intro l hl
      rw [step.watcher]
      exact hs.watched l (hchanges hl)
    quiet := fun r hloading => absurd hloading (hs.not_loading_of_work step nobody r) }

/-- A watcher that has gone away knows nothing. -/
theorem giveUp (hs : Sound start files s) :
    Sound start files
      { live := { s.live with
          watcher := { s.live.watcher with directories := [] }
          changes := []
          reading := none
          sets := [] }
        stage := .unwatched } where
  working := ⟨hs.working.running, nofun⟩
  same_files := hs.same_files
  disk := hs.disk
  registered := by
    intro d
    rw [← hs.same_files]
    simp [unregistered]
  found := nofun
  watched := nofun
  quiet := nofun

end Sound

/-- Every step keeps what may be relied on. -/
theorem Step.sound (h : Step s move t) (hs : Sound start files s) : Sound start files t := by
  cases h with
  | @seen l disk change watched =>
    obtain ⟨dir, hdir, hplace⟩ := hs.exists_of_reported (change.home.trans hs.disk.home) watched
    exact (hs.of_change change).report hdir hplace
  | unseen change unwatched => exact hs.of_change change
  | load loading more =>
    apply hs.at_stage
    · unfold unregistered
      rw [loading]
    · exact fun _ _ => ⟨_, loading⟩
  | publishFirst loading done =>
    apply (hs.publish _).at_stage
    · by_cases hwatch : s.live.loop.store.policy = .watch
      · simp only [unregistered, if_pos hwatch, loading]
      · simp only [unregistered, if_neg hwatch, loading]
    · exact fun _ _ => ⟨_, loading⟩
  | register registering found => exact hs.register registering found
  | giveUp registering => exact hs.giveUp
  | serve registered =>
    apply hs.at_stage
    · unfold unregistered
      rw [registered]
    · exact nofun
  | work step nobody begun => exact hs.work step nobody

/-- As long as the rule files are read for the first time, what was read is what they hold. Later
the report of a rule file is waiting, or the set that is published last holds what they hold. -/
def Current (P : Location → Prop) (s : Handoff) : Prop :=
  match s.stage with
  | .loading r => ∃ done, s.live.watcher.files = done ++ r.left ∧
      r.texts = done.filterMap (RuleSet.textOf? s.live.disk)
  | .registering _ => OnTheWay P s.live
  | .serving => OnTheWay P s.live
  | .unwatched => True

/-- A server that starts has read nothing yet. -/
theorem current_ofStore (P : Location → Prop) (disk : Disk) (store : RuleStore) :
    Current P (ofStore disk store) := by
  unfold Current ofStore
  dsimp only
  by_cases hfiles : store.files = []
  · rw [if_pos hfiles]
    trivial
  · rw [if_neg hfiles]
    exact ⟨[], rfl, rfl⟩

/-- Once the rule files were read, only what the watcher and the loop do matters. -/
theorem Current.map (hcurrent : Current P s) (hloading : ∀ r, s.stage ≠ .loading r)
    {live : LiveRules} (hway : OnTheWay P s.live → OnTheWay P live) :
    Current P { s with live } := by
  unfold Current at hcurrent ⊢
  cases hstage : s.stage with
  | loading r => exact absurd hstage (hloading r)
  | registering left =>
    rw [hstage] at hcurrent
    exact hway hcurrent
  | serving =>
    rw [hstage] at hcurrent
    exact hway hcurrent
  | unwatched => trivial

/-- A change that is not seen, and gives no other text to a file that was read, makes nothing old.
-/
theorem Current.of_unseen (hcurrent : Current P s) (hworking : s.live.Working)
    (htexts : ∀ file ∈ s.read, RuleSet.textOf? disk file = RuleSet.textOf? s.live.disk file) :
    Current P { s with live := { s.live with disk } } := by
  unfold Current at hcurrent ⊢
  unfold read at htexts
  cases hstage : s.stage with
  | loading r =>
    rw [hstage] at hcurrent htexts
    obtain ⟨done, hfiles, hread⟩ := hcurrent
    have hdone : done =
        s.live.watcher.files.take (s.live.watcher.files.length - r.left.length) := by
      rw [hfiles, List.length_append, Nat.add_sub_cancel, List.take_left]
    refine ⟨done, hfiles, hread.trans (List.filterMap_congr fun file hfile => ?_)⟩
    rw [hdone] at hfile
    exact (htexts file hfile).symm
  | registering left =>
    rw [hstage] at hcurrent htexts
    exact hcurrent.of_unseen hworking htexts
  | serving =>
    rw [hstage] at hcurrent htexts
    exact hcurrent.of_unseen hworking htexts
  | unwatched => trivial

/-- Reading one file more keeps what was read current. -/
theorem Current.load (hcurrent : Current P s) {r : RuleReading} (loading : s.stage = .loading r)
    (more : r.left ≠ []) : Current P { s with stage := .loading (r.next s.live.disk) } := by
  unfold Current at hcurrent
  rw [loading] at hcurrent
  obtain ⟨done, hfiles, hread⟩ := hcurrent
  obtain ⟨left, texts⟩ := r
  cases left with
  | nil => exact absurd rfl more
  | cons file rest =>
    refine ⟨done ++ [file], ?_, ?_⟩
    · rw [hfiles, List.append_assoc]
      rfl
    · rw [List.filterMap_append, ← hread]
      unfold RuleReading.next RuleSet.textOf?
      cases (s.live.disk.readText file).toOption <;> rfl

/-- The first set that is published holds what the files hold. -/
theorem Current.publishFirst (hcurrent : Current P s) (hs : Sound start files s) {r : RuleReading}
    (loading : s.stage = .loading r) (done : r.left = []) :
    Current P
      { live := { s.live with loop := .ofStore (s.live.loop.store.replace r.rules) }
        stage := if s.live.loop.store.policy = .watch then
          .registering (directoriesOf s.live.watcher.files) else .unwatched } := by
  obtain ⟨-, -, hreading, hsets⟩ := hs.quiet r loading
  unfold Current at hcurrent ⊢
  rw [loading] at hcurrent
  obtain ⟨all, hfiles, hread⟩ := hcurrent
  rw [done, List.append_nil] at hfiles
  dsimp only
  by_cases hwatch : s.live.loop.store.policy = .watch
  · rw [if_pos hwatch]
    right
    unfold LiveRules.outcome LiveRules.published
    dsimp only
    rw [hreading, hsets]
    change RuleSet.ofSources r.texts = _
    rw [hread, ← hfiles]
    rfl
  · rw [if_neg hwatch]
    trivial

namespace Sound

/-- A change of a text is reported if the directory of the file is registered. -/
theorem textOf?_of_unseen (hs : Sound start files s) (change : Disk.FileChange l s.live.disk disk)
    (unwatched : s.live.watcher.reportDirectory? disk l.dropLast = none) {file : String}
    (hdir : Path.directory file ∈ s.live.watcher.directories) :
    RuleSet.textOf? disk file = RuleSet.textOf? s.live.disk file := by
  by_contra htext
  have hnames := (change.names htext).of_sameDirectories hs.disk.symm
  have hplace := hs.found_of_change change _ hdir (hnames.dropLast ▸ hnames.directory)
  rw [← hnames.dropLast] at hplace
  have hwatched := RuleWatcher.reportDirectory?_isSome hdir hplace
  rw [unwatched] at hwatched
  cases hwatched

/-- A change that is not reported either is lost, or leaves alone what was read. -/
theorem texts_of_unseen (hs : Sound start files s) (change : Disk.FileChange l s.live.disk disk)
    (unwatched : s.live.watcher.reportDirectory? disk l.dropLast = none) (hlost : ¬s.Loses disk) :
    ∀ file ∈ s.read, RuleSet.textOf? disk file = RuleSet.textOf? s.live.disk file := by
  intro file hfile
  by_contra htext
  have hfiles : file ∈ files := by
    rw [← hs.same_files]
    unfold read at hfile
    split at hfile
    · exact List.mem_of_mem_take hfile
    · exact hfile
    · exact hfile
    · exact hfile
  rcases (hs.registered _).mp (RuleWatcher.mem_directoriesOf.mpr ⟨file, hfiles, rfl⟩)
    with hdir | hdir
  · exact htext (hs.textOf?_of_unseen change unwatched hdir)
  · exact hlost ⟨file, hfile, hdir, htext⟩

/-- The report of a rule file is relevant. -/
theorem isRelevant (hs : Sound start files s) (htell : ReportsTell start.home files)
    (hl : l ∈ s.live.changes) (hplace : NamedPlace start files l) :
    s.live.watcher.isRelevant s.live.disk l := by
  obtain ⟨file, hfile, hnames⟩ := hplace
  obtain ⟨dir, hdir, hwalk⟩ := hs.watched l hl
  have hfound := hs.found dir hdir (hwalk ▸ hnames.directory)
  rw [hwalk] at hfound
  rw [← hs.same_files] at hfile
  refine RuleWatcher.isRelevant_of_names ?_ ?_ hfile (hnames.of_sameDirectories hs.disk)
    (RuleWatcher.reportDirectory?_isSome hdir hfound)
  · intro d hd
    rw [hs.same_files, hs.registered]
    exact .inl hd
  · rw [hs.same_files, hs.disk.home]
    exact htell

end Sound

/-- No step makes old what is current, unless it loses a change. -/
theorem Step.current (h : Step s move t) (hs : Sound start files s)
    (htell : ReportsTell start.home files)
    (hlost : ∀ l disk, move = .unseen l disk → ¬s.Loses disk)
    (hcurrent : Current (NamedPlace start files) s) : Current (NamedPlace start files) t := by
  cases h with
  | @seen l disk change watched =>
    obtain ⟨dir, hdir, -⟩ :=
      hs.exists_of_reported (change.home.trans hs.disk.home) watched
    apply hcurrent.map (hs.not_loading hdir)
    apply (LiveRules.Step.edit s.live change).onTheWay hs.working nofun
    -- A change at any other place leaves the texts of the rule files alone.
    rintro m d ⟨⟩ hplace file hfile
    by_contra htext
    rw [hs.same_files] at hfile
    exact hplace ⟨file, hfile, (change.names htext).of_sameDirectories hs.disk.symm⟩
  | @unseen l disk change unwatched =>
    exact hcurrent.of_unseen hs.working (hs.texts_of_unseen change unwatched (hlost l disk rfl))
  | load loading more => exact hcurrent.load loading more
  | publishFirst loading done => exact hcurrent.publishFirst hs loading done
  | register registering found =>
    unfold Current at hcurrent
    rw [registering] at hcurrent
    exact hcurrent
  | giveUp registering => trivial
  | serve registered =>
    unfold Current at hcurrent
    rw [registered] at hcurrent
    exact hcurrent
  | work step nobody begun =>
    apply hcurrent.map (hs.not_loading_of_work step nobody)
    apply step.onTheWay hs.working
    · rintro - l rest oldest hl
      refine hs.isRelevant htell ?_ hl
      rw [oldest]
      exact List.mem_cons_self
    · intro l d hedit
      exact absurd hedit (nobody l d)

/-! ## A run -/

/-- In the course of a run, every change that is lost is followed by one of a rule file that is
reported. -/
def Caught (start : Disk) (files : List String) (s : Handoff) (moves : List Move) : Prop :=
  ∀ front l disk back m, moves = front ++ .unseen l disk :: back → Steps Step s front m →
    m.Loses disk → ∃ l' disk', .seen l' disk' ∈ back ∧ NamedPlace start files l'

/-- What is caught in a run is caught in what follows the first step. -/
theorem Caught.tail (h : Caught start files s (move :: moves)) (first : Step s move t) :
    Caught start files t moves := by
  intro front l disk back m hmoves hfront
  exact h (move :: front) l disk back m (congrArg (move :: ·) hmoves) (.cons first hfront)

/-- A change that is reported is on its way. -/
theorem Step.current_of_seen (h : Step s (.seen l disk) t) (hs : Sound start files s) (hl : P l) :
    Current P t := by
  cases h with
  | seen change watched =>
    obtain ⟨dir, hdir, -⟩ := hs.exists_of_reported (change.home.trans hs.disk.home) watched
    have hway : OnTheWay P { s.live with disk, changes := s.live.changes ++ [l] } :=
      .inl ⟨l, List.mem_append_right _ List.mem_cons_self, hl⟩
    unfold Current
    cases hstage : s.stage with
    | loading r => exact absurd hstage (hs.not_loading hdir r)
    | registering left => exact hway
    | serving => exact hway
    | unwatched => trivial

/-- If every change that is lost is followed by one that is reported, then in the end nothing is
lost. -/
theorem current_of_steps (h : Steps Step s moves t) (hs : Sound start files s)
    (htell : ReportsTell start.home files) (hcaught : Caught start files s moves)
    (hcurrent : Current (NamedPlace start files) s ∨
      ∃ l disk, .seen l disk ∈ moves ∧ NamedPlace start files l) :
    Sound start files t ∧ Current (NamedPlace start files) t := by
  induction h with
  | nil s =>
    rcases hcurrent with hcurrent | ⟨l, disk, hmem, -⟩
    · exact ⟨hs, hcurrent⟩
    · cases hmem
  | @cons s m t move moves first rest ih =>
    apply ih (first.sound hs) (hcaught.tail first)
    rcases hcurrent with hcurrent | ⟨l, disk, hmem, hl⟩
    · by_cases hlost : ∃ l disk, move = .unseen l disk ∧ s.Loses disk
      -- What is lost now is made up for by the report that is to follow.
      · obtain ⟨l, disk, rfl, hloses⟩ := hlost
        exact .inr (hcaught [] l disk moves s rfl (.nil s) hloses)
      · left
        apply first.current hs htell ?_ hcurrent
        exact fun l disk hmove hloses => hlost ⟨l, disk, hmove, hloses⟩
    · rcases List.mem_cons.mp hmem with rfl | hmem
      · exact .inl (first.current_of_seen hs hl)
      · exact .inr ⟨l, disk, hmem, hl⟩

/-- However changes of files, the server that starts, the watcher and the loop take turns: if
reports of rule files tell, and every change that is lost between reading and registering is
followed by one of a rule file that is reported, then once the server serves and nothing is on its
way, the rules in force are those that the files hold. -/
theorem handoff_is_current {store : RuleStore} {disk : Disk} {moves : List Move} {t : Handoff}
    (hrun : Steps Step (ofStore disk store) moves t) (htell : ReportsTell disk.home store.files)
    (hcaught : Caught disk store.files (ofStore disk store) moves) (hserving : t.stage = .serving)
    (hidle : t.live.Idle) : t.live.published = .load t.live.disk store.files := by
  have hcurrent := current_ofStore (NamedPlace disk store.files) disk store
  obtain ⟨hs, ht⟩ := current_of_steps hrun (sound_ofStore disk store) htell hcaught (.inl hcurrent)
  unfold Current at ht
  rw [hserving] at ht
  rw [LiveRules.load_of_onTheWay ht hidle, hs.same_files]

/-- A change is lost before the directory of the rule files is registered, and afterwards there is
another one. -/
def changedTwice (a b : Location) (between last : Disk) : List Move :=
  [.load, .load, .publishFirst, .unseen a between, .register, .seen b last, .work .take,
    .work .read, .serve, .work .read, .work .send, .work .publish]

/-- The run in which a change is lost and another one is reported. -/
theorem steps_changedTwice {first second : String} {dir : List Path.Component} {a b : Location}
    {disk between last : Disk} (hdir : directoriesOf [first, second] = [dir])
    (ha : Disk.FileChange a disk between) (hb : Disk.FileChange b between last)
    (hfound : (between.lookup (Path.ofComponents dir)).toOption.isSome)
    (hseen : (RuleWatcher.reportDirectory? last ⟨[first, second], [dir]⟩ b.dropLast).isSome)
    (hrelevant : RuleWatcher.isRelevant last ⟨[first, second], [dir]⟩ b) :
    ∃ t, Steps Step (ofStore disk (.ofFiles [first, second] .watch)) (changedTwice a b between last)
      t ∧ t.stage = .serving ∧ t.live.Idle ∧ t.live.disk = last := by
  have hstage : ∀ s : Handoff, s.stage = .registering (directoriesOf [first, second]) →
      s.stage = .registering [dir] := fun s h => hdir ▸ h
  have hrun : Steps Step (ofStore disk (.ofFiles [first, second] .watch))
      (changedTwice a b between last) _ :=
    .cons (.load _ rfl (List.cons_ne_nil _ _)) <| .cons (.load _ rfl (List.cons_ne_nil _ _)) <|
      .cons (.publishFirst _ rfl rfl) <| .cons (.unseen _ ha rfl) <|
      .cons (.register _ (hstage _ rfl) hfound) <| .cons (.seen _ hb hseen) <|
      .cons (.work _ (.take_relevant _ rfl rfl hrelevant) nofun nofun) <|
      .cons (.work _ (.read _ rfl (List.cons_ne_nil _ _)) nofun nofun) <| .cons (.serve _ rfl) <|
      .cons (.work _ (.read _ rfl (List.cons_ne_nil _ _)) nofun nofun) <|
      .cons (.work _ (.send _ rfl rfl) nofun nofun) <|
      .cons (.work _ (.publish _ rfl) nofun fun _ => rfl) <| .nil _
  exact ⟨_, hrun, rfl, ⟨rfl, rfl, rfl⟩, rfl⟩

/-- In this run the change that is lost is followed by one that is reported. -/
theorem caught_changedTwice {a b : Location} {between last : Disk} (hb : NamedPlace start files b) :
    Caught start files s (changedTwice a b between last) := by
  intro front l disk back m hmoves _ _
  simp [changedTwice, List.cons_eq_append_iff] at hmoves
  obtain ⟨-, ⟨rfl, rfl⟩, rfl⟩ := hmoves
  exact ⟨b, last, by simp, hb⟩

/-- The first of two files is written again. -/
def firstWritten : Disk := LiveRules.twoFiles.write "a.conf" (Utf8.encode "rewrite ^ /d")

/-- Then the second one is written again. -/
def bothWritten : Disk := firstWritten.write "b.conf" (Utf8.encode "rewrite ^ /c")

/-- The change of one rule file is lost, and made up for by the report of the other. -/
theorem handoff_is_current_changed_twice :
    ∃ t, Steps Step (ofStore LiveRules.twoFiles (.ofFiles ["a.conf", "b.conf"] .watch))
        (changedTwice ["srv", "a.conf"] ["srv", "b.conf"] firstWritten bothWritten) t ∧
      t.stage = .serving ∧ t.live.Idle ∧ t.live.disk = bothWritten ∧
      t.live.published = .load bothWritten ["a.conf", "b.conf"] ∧
      (RuleSet.load bothWritten ["a.conf", "b.conf"]).map Rule.target = ["/d", "/c"] := by
  have hfirst : Disk.FileChange ["srv", "a.conf"] LiveRules.twoFiles firstWritten :=
    Disk.fileChange_write _ (by decide +kernel) (by rfl) (by decide +kernel)
  have hsecond : Disk.FileChange ["srv", "b.conf"] firstWritten bothWritten :=
    Disk.fileChange_write _ (by decide +kernel) (by rfl) (by decide +kernel)
  have hdir : directoriesOf ["a.conf", "b.conf"] = [[.current]] := by decide +kernel
  obtain ⟨t, hrun, hserving, hidle, hdisk⟩ := steps_changedTwice hdir hfirst hsecond
    (by decide +kernel) (by decide +kernel) (by decide +kernel)
  have hplace : NamedPlace LiveRules.twoFiles ["a.conf", "b.conf"] ["srv", "b.conf"] :=
    ⟨"b.conf", by simp, by decide +kernel, "b.conf", by decide +kernel, by decide +kernel⟩
  have hcurrent := handoff_is_current hrun (by decide +kernel) (caught_changedTwice hplace) hserving
    hidle
  rw [hdisk] at hcurrent
  exact ⟨t, hrun, hserving, hidle, hdisk, hcurrent, by decide +kernel⟩

/-- One rule file. -/
def oneFile : Disk := (Disk.empty ["srv"]).write "a.conf" (Utf8.encode "rewrite ^ /a")

/-- A change of a rule file that was read already, but whose directory is not yet registered, is
lost: the server serves, nothing is on its way, and the rules in force are the old ones. -/
theorem change_before_registering_is_lost :
    let written := oneFile.write "a.conf" (Utf8.encode "rewrite ^ /b")
    ∃ t, Steps Step (ofStore oneFile (.ofFiles ["a.conf"] .watch))
        [.load, .publishFirst, .unseen ["srv", "a.conf"] written, .register, .serve] t ∧
      t.stage = .serving ∧ t.live.Idle ∧ t.live.disk = written ∧
      t.live.published.map Rule.target = ["/a"] ∧
      (RuleSet.load written ["a.conf"]).map Rule.target = ["/b"] := by
  intro written
  have hchange : Disk.FileChange ["srv", "a.conf"] oneFile written :=
    Disk.fileChange_write _ (by decide +kernel) (by rfl) (by decide +kernel)
  have hrun : Steps Step (ofStore oneFile (.ofFiles ["a.conf"] .watch))
      [.load, .publishFirst, .unseen ["srv", "a.conf"] written, .register, .serve] _ :=
    .cons (.load _ rfl (List.cons_ne_nil _ _)) <| .cons (.publishFirst _ rfl rfl) <|
      .cons (.unseen _ hchange rfl) <| .cons (.register _ rfl (by decide +kernel)) <|
      .cons (.serve _ rfl) <| .nil _
  exact ⟨_, hrun, rfl, ⟨rfl, rfl, rfl⟩, rfl, by decide +kernel, by decide +kernel⟩

end Handoff

end PagePreview
