/-!
# Steps one after another

A system is given by the steps that it can take, each with a label that says what was done. A run is
a list of labels with a step for each of them; between two steps anything else may have its turn, so
all interleavings of several parties are runs.
-/

namespace PagePreview

/-- A run from one state to another, with what was done on the way. -/
inductive Steps {σ α : Type} (Step : σ → α → σ → Prop) : σ → List α → σ → Prop
  /-- Nothing is done. -/
  | nil (s : σ) : Steps Step s [] s
  /-- One step, and then others. -/
  | cons {s t u : σ} {a : α} {as : List α} (first : Step s a t) (rest : Steps Step t as u) :
      Steps Step s (a :: as) u

namespace Steps

variable {σ α : Type} {Step : σ → α → σ → Prop} {s t u : σ}

/-- A run that does one thing and then others begins with a step. -/
theorem cons_inv {a : α} {as : List α} (h : Steps Step s (a :: as) u) :
    ∃ t, Step s a t ∧ Steps Step t as u := by
  cases h with
  | cons first rest => exact ⟨_, first, rest⟩

/-- A run may be cut anywhere. -/
theorem append_inv {as bs : List α} (h : Steps Step s (as ++ bs) u) :
    ∃ t, Steps Step s as t ∧ Steps Step t bs u := by
  induction as generalizing s with
  | nil => exact ⟨s, .nil s, h⟩
  | cons a as ih =>
    obtain ⟨t, first, rest⟩ := h.cons_inv
    obtain ⟨m, front, back⟩ := ih rest
    exact ⟨m, .cons first front, back⟩

/-- A run may be followed by another. -/
theorem append {as bs : List α} (h : Steps Step s as t) (more : Steps Step t bs u) :
    Steps Step s (as ++ bs) u := by
  induction h with
  | nil s => exact more
  | cons first rest ih => exact .cons first (ih more)

/-- What every step of a run keeps, the run keeps. -/
theorem keeps {P : σ → Prop} {as : List α} (h : Steps Step s as t)
    (hstep : ∀ s a t, a ∈ as → Step s a t → P s → P t) (hs : P s) : P t := by
  induction h with
  | nil s => exact hs
  | cons first rest ih =>
    apply ih
    · intro s a t ha
      exact hstep s a t (List.mem_cons_of_mem _ ha)
    · exact hstep _ _ _ List.mem_cons_self first hs

end Steps

end PagePreview
