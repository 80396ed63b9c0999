import PagePreview.Rule.Updates
import PagePreview.Server.Shutdown
import PagePreview.Steps

/-!
# Sets on their way to the store

The sets that the watcher sends wait in a channel until the loop takes them out and publishes them.
The loop ends when the channel is closed and empty. It also listens for the signal to stop, which it
takes as given, too, when nobody is left who could send it. If there is a set to publish and a
reason to stop at the same time, the loop may do either. Steps of the watcher, of the loop and of
all others who send the signal or listen for it may follow one another in any order.
-/

namespace PagePreview

/-- The listener that an action is about. -/
def SignalAction.listener? : SignalAction → Option String
  | .subscribe name => some name
  | .drop name => some name
  | .receive name => some name
  | .trigger => none

/-- Sets on their way, with the loop that publishes them. -/
structure UpdateChannel where
  /-- The sets that were sent and that the loop has not come to, in order. -/
  sets : List RuleSet
  /-- Whether everybody who could send a set is gone. -/
  closed : Bool
  /-- The signal to stop, and who listens for it. -/
  shutdown : Shutdown
  /-- Whether everybody who could send the signal is gone. -/
  abandoned : Bool
  /-- The name under which the loop listens. -/
  name : String
  /-- The loop. -/
  loop : UpdateLoop

namespace UpdateChannel

/-- What happens in one step. -/
inductive Move where
  /-- The watcher sends a set. -/
  | send (rules : RuleSet)
  /-- The last who could send a set goes away. -/
  | close
  /-- Somebody sends the signal to stop, or somebody else than the loop listens for it. -/
  | signal (action : SignalAction)
  /-- The last who could send the signal goes away. -/
  | abandon
  /-- The loop publishes a set. -/
  | publish (rules : RuleSet)
  /-- The loop finds the channel closed. -/
  | finish
  /-- The loop finds the signal to stop. -/
  | quit

/-- Whether it is the loop that does something. -/
def Move.isOfLoop : Move → Bool
  | .send _ => false
  | .close => false
  | .signal _ => false
  | .abandon => false
  | .publish _ => true
  | .finish => true
  | .quit => true

/-- A loop that has just begun, and listens, at the end of a channel that has just been made. -/
def ofStore (store : RuleStore) (shutdown : Shutdown) (name : String) : UpdateChannel :=
  ⟨[], false, shutdown.subscribe name, false, name, .ofStore store⟩

/-- The loop finds a signal, or that it has missed some, or that there can be none any more. -/
def Told (s : UpdateChannel) : Prop :=
  s.abandoned = true ∨ (s.shutdown.receive? s.name).1 = some .signalled ∨
    ∃ missed, (s.shutdown.receive? s.name).1 = some (.lagged missed)

/-- What a loop leaves that ends: it listens no more, and what is in the channel is lost. -/
def ended (s : UpdateChannel) (signal : UpdateSignal) : UpdateChannel :=
  { s with
    sets := []
    shutdown := s.shutdown.unsubscribe s.name
    loop := s.loop.step signal }

/-- The steps that may be taken. -/
inductive Step : UpdateChannel → Move → UpdateChannel → Prop
  /-- A set may be sent until the channel is closed; it is refused when the loop has ended. -/
  | send (s : UpdateChannel) {rules : RuleSet} (isOpen : s.closed = false) :
      Step s (.send rules) (if s.loop.running then { s with sets := s.sets ++ [rules] } else s)
  /-- The channel may be closed at any time. -/
  | close (s : UpdateChannel) : Step s .close { s with closed := true }
  /-- The signal may be sent as long as there is somebody to send it; others may listen at any
  time. -/
  | signal (s : UpdateChannel) {action : SignalAction} (others : action.listener? ≠ some s.name)
      (sender : action = .trigger → s.abandoned = false) :
      Step s (.signal action) { s with shutdown := s.shutdown.act action }
  /-- Whoever could send the signal may go away at any time. -/
  | abandon (s : UpdateChannel) : Step s .abandon { s with abandoned := true }
  /-- The loop may publish the oldest set. -/
  | publish (s : UpdateChannel) {rules : RuleSet} {rest : List RuleSet}
      (running : s.loop.running = true) (oldest : s.sets = rules :: rest) :
      Step s (.publish rules) { s with sets := rest, loop := s.loop.step (.update rules) }
  /-- The loop ends when nothing is left and nothing more can come. -/
  | finish (s : UpdateChannel) (running : s.loop.running = true) (closed : s.closed = true)
      (nothing : s.sets = []) : Step s .finish (s.ended .closed)
  /-- The loop may end as soon as it is told to. -/
  | quit (s : UpdateChannel) (running : s.loop.running = true) (told : s.Told) :
      Step s .quit (s.ended .shutdown)

/-- The loop has nothing to do. -/
def Rests (s : UpdateChannel) : Prop := ∀ move t, Step s move t → move.isOfLoop = false

end UpdateChannel

end PagePreview
