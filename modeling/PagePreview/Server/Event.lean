import PagePreview.Proxy.Forwarding
import PagePreview.Rule.Action

/-!
# What happens while a request is handled

Handling a request gives its answer together with everything that was done for it, in order: the
paths that were looked at, the handlers that were called and with what, and the request that was
sent to another server.
-/

namespace PagePreview

/-- Something that is done for a request. -/
inductive Event where
  /-- A rule with this action matched. -/
  | matched (action : Action)
  /-- The request was forwarded; what was sent, and whether it was answered. -/
  | forwarded (sent : Option Outgoing) (succeeded : Bool)
  /-- It was tested whether a path leads to a file. -/
  | tested (path : String)
  /-- A file was read. -/
  | opened (path : String)
  /-- The data script of a page was run. -/
  | augmented (script : String) (request : Request)
  /-- A template was rendered. -/
  | rendered (template : String)
  /-- A script was run. -/
  | scripted (script : String) (request : Request)
  /-- The request was handed on to the application. -/
  | delegated (request : Request)
  deriving DecidableEq, Repr

/-- A result with what was done for it. -/
structure Traced (α : Type) where
  /-- The result. -/
  value : α
  /-- What was done, in order. -/
  events : List Event

namespace Traced

/-- A result for which nothing was done. -/
def pure {α : Type} (a : α) : Traced α := ⟨a, []⟩

/-- Go on with a result; what is done then comes after what was done before. -/
def bind {α β : Type} (x : Traced α) (f : α → Traced β) : Traced β :=
  ⟨(f x.value).value, x.events ++ (f x.value).events⟩

instance : Monad Traced where
  pure := pure
  bind := bind

/-- Do one thing. -/
def note (e : Event) : Traced Unit := ⟨(), [e]⟩

/-- Nothing done: the value. -/
@[simp] theorem value_pure {α : Type} (a : α) : (Pure.pure a : Traced α).value = a := rfl

/-- Nothing done: no events. -/
@[simp] theorem events_pure {α : Type} (a : α) : (Pure.pure a : Traced α).events = [] := rfl

/-- The value of two steps is that of the second. -/
@[simp] theorem value_bind {α β : Type} (x : Traced α) (f : α → Traced β) :
    (x >>= f).value = (f x.value).value := rfl

/-- The events of two steps are those of the first and then those of the second. -/
@[simp] theorem events_bind {α β : Type} (x : Traced α) (f : α → Traced β) :
    (x >>= f).events = x.events ++ (f x.value).events := rfl

/-- One thing done has no value. -/
@[simp] theorem value_note (e : Event) : (note e).value = () := rfl

/-- One thing done is one event. -/
@[simp] theorem events_note (e : Event) : (note e).events = [e] := rfl

end Traced

end PagePreview
