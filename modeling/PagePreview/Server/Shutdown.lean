/-!
# The signal to stop

The signal is sent to all who listen at that moment. Only the latest one is kept for a listener:
who has missed earlier ones is told how many, once, and then gets the one that is kept.
-/

namespace PagePreview

/-- One who listens for the signal. -/
structure Listener where
  /-- The listener's name. -/
  name : String
  /-- How many signals had been sent up to the next one that the listener expects. -/
  next : Nat
  deriving DecidableEq, Repr

/-- What a listener finds. -/
inductive Received where
  /-- A signal. -/
  | signalled
  /-- No signal. -/
  | empty
  /-- This many signals were missed. -/
  | lagged (missed : Nat)
  deriving DecidableEq, Repr

/-- The signal and those who listen for it. -/
structure Shutdown where
  /-- How many signals have been sent to anyone. -/
  sent : Nat
  /-- The listeners, each name once. -/
  listeners : List Listener
  deriving DecidableEq, Repr

namespace Shutdown

/-- Nobody listens, nothing has been sent. -/
def initial : Shutdown := ⟨0, []⟩

/-- Stop to listen. -/
def unsubscribe (name : String) (s : Shutdown) : Shutdown :=
  { s with listeners := s.listeners.filter (·.name != name) }

/-- Listen for the signals to come. A listener of the same name is replaced. -/
def subscribe (name : String) (s : Shutdown) : Shutdown :=
  let rest := s.unsubscribe name
  { rest with listeners := ⟨name, s.sent⟩ :: rest.listeners }

/-- Send the signal to all who listen; if nobody does, it is lost. -/
def trigger (s : Shutdown) : Shutdown :=
  if s.listeners.isEmpty then s else { s with sent := s.sent + 1 }

/-- How many listen. -/
def listenerCount (s : Shutdown) : Nat := s.listeners.length

/-- What a listener finds who expects the signal after `next` others, of which `sent` were sent,
and what the listener expects then. -/
def receiveAt (sent next : Nat) : Received × Nat :=
  if sent ≤ next then (.empty, next)
  else if next + 1 < sent then (.lagged (sent - 1 - next), sent - 1)
  else (.signalled, next + 1)

/-- What the listener of a name finds; nothing for a name that nobody has. -/
def receive? (name : String) (s : Shutdown) : Option Received × Shutdown :=
  match s.listeners.find? (·.name == name) with
  | none => (none, s)
  | some l =>
    let (found, next) := receiveAt s.sent l.next
    (some found, { s with
      listeners := s.listeners.map fun m => if m.name = name then { m with next } else m })

end Shutdown

/-- Something that is done with the signal. -/
inductive SignalAction where
  /-- Somebody begins to listen under a name. -/
  | subscribe (name : String)
  /-- The listener of a name goes away. -/
  | drop (name : String)
  /-- The listener of a name looks for a signal. -/
  | receive (name : String)
  /-- The signal is sent. -/
  | trigger
  deriving DecidableEq, Repr

namespace Shutdown

/-- What an action leaves. -/
def act (s : Shutdown) : SignalAction → Shutdown
  | .subscribe name => s.subscribe name
  | .drop name => s.unsubscribe name
  | .receive name => (s.receive? name).2
  | .trigger => s.trigger

/-- What actions leave, one after another. -/
def after (s : Shutdown) (actions : List SignalAction) : Shutdown := actions.foldl act s

/-- What the listener of a name finds while actions are done, in order. -/
def found (name : String) (s : Shutdown) : List SignalAction → List Received
  | [] => []
  | a :: actions =>
    (if a = .receive name then (s.receive? name).1.toList else []) ++ found name (s.act a) actions

end Shutdown

end PagePreview
