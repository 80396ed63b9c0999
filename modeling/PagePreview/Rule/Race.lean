import PagePreview.Rule.Reading
import PagePreview.Rule.Store
import PagePreview.Steps

/-!
# Reloads that overlap

Several requests may reload one store at the same time. Each reload reads the rule files one after
another and then publishes what it has read. No lock is taken: steps of different reloads, and
changes to the files, may follow one another in any order.
-/

namespace PagePreview

/-- A store with the reloads that have begun. -/
structure ReloadRace where
  /-- The files as they are now. -/
  disk : Disk
  /-- The store. -/
  store : RuleStore
  /-- What each reload has read, in the order in which they began; nothing once it has published. -/
  reloads : List (Option RuleReading)

namespace ReloadRace

/-- What happens in one step. -/
inductive Move where
  /-- Files are changed, to this disk. -/
  | edit (disk : Disk)
  /-- Another reload begins. -/
  | start
  /-- The reload with this number reads its next file. -/
  | read (n : Nat)
  /-- The reload with this number publishes what it has read. -/
  | publish (n : Nat)

/-- A store that no reload has come to yet. -/
def ofStore (disk : Disk) (store : RuleStore) : ReloadRace := ⟨disk, store, []⟩

/-- The steps that may be taken. -/
inductive Step : ReloadRace → Move → ReloadRace → Prop
  /-- Files may change at any time. -/
  | edit (s : ReloadRace) (disk : Disk) : Step s (.edit disk) { s with disk }
  /-- A reload may begin at any time; it gets the next number. -/
  | start (s : ReloadRace) :
      Step s .start { s with reloads := s.reloads ++ [some (.ofFiles s.store.files)] }
  /-- A reload reads a file as it is now. -/
  | read (s : ReloadRace) {n : Nat} {r : RuleReading} (running : s.reloads[n]? = some (some r))
      (more : r.left ≠ []) :
      Step s (.read n) { s with reloads := s.reloads.set n (some (r.next s.disk)) }
  /-- A reload that has read every file publishes, and is over. -/
  | publish (s : ReloadRace) {n : Nat} {r : RuleReading} (running : s.reloads[n]? = some (some r))
      (done : r.left = []) :
      Step s (.publish n)
        { s with store := s.store.replace r.rules, reloads := s.reloads.set n none }

/-- Every reload that has begun is over. -/
def Settled (s : ReloadRace) : Prop := ∀ r ∈ s.reloads, r = none

end ReloadRace

end PagePreview
