import PagePreview.Rule.LiveUpdate

/-!
# From loading to watching

A server that starts reads the rule files and publishes what they hold. Then, if the files are to be
watched, it registers their directories, one after another; from then on the watcher works. When all
are registered, the loop begins that publishes what the watcher sends. A change to a file is
reported if its directory is registered at that time, and otherwise passes unseen. Steps of the
server, of the watcher and of whoever changes the files may follow one another in any order.
-/

namespace PagePreview

/-- How far a server has come that starts. -/
inductive Handoff.Stage where
  /-- The rule files are read for the first time. -/
  | loading (r : RuleReading)
  /-- What was read is published, and these directories are still to be registered. -/
  | registering (left : List (List Path.Component))
  /-- Every directory is registered, and the loop runs. -/
  | serving
  /-- Nothing is watched. -/
  | unwatched

/-- A server that starts. -/
structure Handoff where
  /-- The rules, with a watcher for the directories that are registered so far. -/
  live : LiveRules
  /-- How far it has come. -/
  stage : Handoff.Stage

namespace Handoff

/-- What happens in one step. -/
inductive Move where
  /-- The file at a location is changed, which gives this disk, and the change is reported. -/
  | seen (l : Location) (disk : Disk)
  /-- The same, but it is not reported. -/
  | unseen (l : Location) (disk : Disk)
  /-- The server reads a file. -/
  | load
  /-- The server publishes what it has read. -/
  | publishFirst
  /-- The next directory is registered. -/
  | register
  /-- A directory cannot be registered, and the server does without a watcher. -/
  | giveUp
  /-- The loop begins. -/
  | serve
  /-- The watcher or the loop does something. -/
  | work (move : LiveRules.Move)

/-- A server that begins to start. Without rule files there is nothing to read or to watch. -/
def ofStore (disk : Disk) (store : RuleStore) : Handoff :=
  ⟨.registered ⟨store.files, []⟩ disk store,
    if store.files = [] then .unwatched else .loading (.ofFiles store.files)⟩

/-- The steps that may be taken. -/
inductive Step : Handoff → Move → Handoff → Prop
  /-- A file in a registered directory may change at any time; the change is reported. -/
  | seen (s : Handoff) {l : Location} {disk : Disk} (change : Disk.FileChange l s.live.disk disk)
      (watched : (s.live.watcher.reportDirectory? disk l.dropLast).isSome) :
      Step s (.seen l disk)
        { s with live := { s.live with disk, changes := s.live.changes ++ [l] } }
  /-- So may any other file. -/
  | unseen (s : Handoff) {l : Location} {disk : Disk} (change : Disk.FileChange l s.live.disk disk)
      (unwatched : s.live.watcher.reportDirectory? disk l.dropLast = none) :
      Step s (.unseen l disk) { s with live := { s.live with disk } }
  /-- The server reads a file as it is now. -/
  | load (s : Handoff) {r : RuleReading} (loading : s.stage = .loading r) (more : r.left ≠ []) :
      Step s .load { s with stage := .loading (r.next s.live.disk) }
  /-- When it has read every file, it publishes the rules, and watches the files if it is to. -/
  | publishFirst (s : Handoff) {r : RuleReading} (loading : s.stage = .loading r)
      (done : r.left = []) :
      Step s .publishFirst
        { live := { s.live with loop := .ofStore (s.live.loop.store.replace r.rules) }
          stage := if s.live.loop.store.policy = .watch then
            .registering (RuleWatcher.directoriesOf s.live.watcher.files) else .unwatched }
  /-- A directory that is there is registered. -/
  | register (s : Handoff) {dir : List Path.Component} {rest : List (List Path.Component)}
      (registering : s.stage = .registering (dir :: rest))
      (found : (s.live.disk.lookup (Path.ofComponents dir)).toOption.isSome) :
      Step s .register
        { live := { s.live with watcher := { s.live.watcher with
            directories := s.live.watcher.directories ++ [dir] } }
          stage := .registering rest }
  /-- If something goes wrong, the watcher goes away, with all that it knows. -/
  | giveUp (s : Handoff) {left : List (List Path.Component)}
      (registering : s.stage = .registering left) :
      Step s .giveUp
        { live := { s.live with
            watcher := { s.live.watcher with directories := [] }
            changes := []
            reading := none
            sets := [] }
          stage := .unwatched }
  /-- When every directory is registered, the loop begins. -/
  | serve (s : Handoff) (registered : s.stage = .registering []) :
      Step s .serve { s with stage := .serving }
  /-- The watcher works at any time, and the loop once it has begun. -/
  | work (s : Handoff) {move : LiveRules.Move} {live : LiveRules}
      (step : LiveRules.Step s.live move live) (nobody : ∀ l disk, move ≠ .edit l disk)
      (begun : move = .publish → s.stage = .serving) : Step s (.work move) { s with live }

end Handoff

end PagePreview
