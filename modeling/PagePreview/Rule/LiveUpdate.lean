import PagePreview.Disk.Change
import PagePreview.Rule.Reading
import PagePreview.Rule.Updates
import PagePreview.Rule.Watcher
import PagePreview.Steps

/-!
# Rules that follow their files

Three parties work side by side. Somebody changes files, and each change is reported. The watcher
takes the reports in order; if a rule file is concerned it reads all rule files, one after another,
and sends the rules. The update loop publishes the sets that are sent, in order. Steps of the three
may follow one another in any order, so files may change while the watcher reads.
-/

namespace PagePreview

/-- Watched rule files, with what is on its way from them to the store. -/
structure LiveRules where
  /-- The watcher. -/
  watcher : RuleWatcher
  /-- The files as they are now. -/
  disk : Disk
  /-- The places of changes that were reported and that the watcher has not come to, in order. -/
  changes : List Location
  /-- What the watcher is reading. -/
  reading : Option RuleReading
  /-- The sets that were sent and are not published yet, in order. -/
  sets : List RuleSet
  /-- The loop that publishes. -/
  loop : UpdateLoop

namespace LiveRules

/-- What happens in one step. -/
inductive Move where
  /-- The file at a location is changed, which gives this disk. -/
  | edit (l : Location) (disk : Disk)
  /-- The watcher takes the oldest report. -/
  | take
  /-- The watcher reads a file. -/
  | read
  /-- The watcher sends what it has read. -/
  | send
  /-- The oldest set is published. -/
  | publish

/-- A watcher that has just been registered, and a loop that has just begun. -/
def registered (watcher : RuleWatcher) (disk : Disk) (store : RuleStore) : LiveRules :=
  ⟨watcher, disk, [], none, [], .ofStore store⟩

/-- The steps that may be taken. -/
inductive Step : LiveRules → Move → LiveRules → Prop
  /-- A file may change at any time; the change is reported. -/
  | edit (s : LiveRules) {l : Location} {disk : Disk} (change : Disk.FileChange l s.disk disk) :
      Step s (.edit l disk) { s with disk, changes := s.changes ++ [l] }
  /-- A watcher that is not reading takes a report, and begins to read if it is relevant. -/
  | take (s : LiveRules) {l : Location} {rest : List Location} (oldest : s.changes = l :: rest)
      (idle : s.reading = none) :
      Step s .take { s with
        changes := rest
        reading := if s.watcher.isRelevant s.disk l then some (.ofFiles s.watcher.files)
          else none }
  /-- The watcher reads a file as it is now. -/
  | read (s : LiveRules) {r : RuleReading} (running : s.reading = some r) (more : r.left ≠ []) :
      Step s .read { s with reading := some (r.next s.disk) }
  /-- When it has read every file, it sends the rules. -/
  | send (s : LiveRules) {r : RuleReading} (running : s.reading = some r) (done : r.left = []) :
      Step s .send { s with reading := none, sets := s.sets ++ [r.rules] }
  /-- A set that was sent may be published at any time. -/
  | publish (s : LiveRules) {rules : RuleSet} {rest : List RuleSet}
      (oldest : s.sets = rules :: rest) :
      Step s .publish { s with sets := rest, loop := s.loop.step (.update rules) }

/-- Nothing is on its way. -/
structure Idle (s : LiveRules) : Prop where
  /-- Every report was taken. -/
  changes : s.changes = []
  /-- The watcher is not reading. -/
  reading : s.reading = none
  /-- Every set was published. -/
  sets : s.sets = []

/-- The rules in force. -/
def published (s : LiveRules) : RuleSet := s.loop.store.published

end LiveRules

end PagePreview
