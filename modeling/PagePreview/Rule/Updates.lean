import PagePreview.Rule.Store

/-!
# Publishing watched rules

Sets that the watcher sends are published one after another. Once the watcher is gone or the server
stops, nothing is published any more.
-/

namespace PagePreview

/-- What reaches the loop that publishes sets. -/
inductive UpdateSignal where
  /-- The watcher has sent a set. -/
  | update (rules : RuleSet)
  /-- The watcher is gone. -/
  | closed
  /-- The server stops. -/
  | shutdown

/-- The loop that publishes sets. -/
structure UpdateLoop where
  /-- Where the sets are published. -/
  store : RuleStore
  /-- Whether the loop still runs. -/
  running : Bool

namespace UpdateLoop

/-- A loop that has just begun. -/
def ofStore (store : RuleStore) : UpdateLoop := ⟨store, true⟩

/-- Take in a signal. -/
def step (loop : UpdateLoop) (signal : UpdateSignal) : UpdateLoop :=
  if loop.running then
    match signal with
    | .update rules => { loop with store := loop.store.replace rules }
    | .closed => { loop with running := false }
    | .shutdown => { loop with running := false }
  else loop

/-- Take in signals in order. -/
def run (loop : UpdateLoop) (signals : List UpdateSignal) : UpdateLoop := signals.foldl step loop

end UpdateLoop

end PagePreview
