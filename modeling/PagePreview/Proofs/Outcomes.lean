/-!
# Computations that may fail

A computation in several steps that goes through went through in each of them.
-/

namespace PagePreview

variable {ε α β : Type} {x : Except ε α} {b : β}

/-- Two steps that succeed both do. -/
theorem exists_of_bind_ok {f : α → Except ε β} (h : x >>= f = .ok b) :
    ∃ a, x = .ok a ∧ f a = .ok b := by
  cases x with
  | error e => cases h
  | ok a => exact ⟨a, rfl, h⟩

/-- What is made of a result is made of one that was there. -/
theorem exists_of_map_ok {f : α → β} (h : x.map f = .ok b) : ∃ a, x = .ok a ∧ f a = b := by
  cases x with
  | error e => cases h
  | ok a => exact ⟨a, rfl, Except.ok.inj h⟩

end PagePreview
