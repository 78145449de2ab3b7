/-!
# Steps that may fail

What is known of the steps of a computation that succeeds.
-/

namespace Stencil

variable {ε α β : Type}

/-- Two steps one after the other succeed only if both do. -/
theorem exists_of_bind_eq_ok {step : Except ε α} {next : α → Except ε β} {y : β}
    (h : step >>= next = .ok y) : ∃ x, step = .ok x ∧ next x = .ok y := by
  cases step with
  | error fault => cases h
  | ok x => exact ⟨x, rfl, h⟩

/-- What is made of a step that succeeds. -/
theorem exists_of_map_eq_ok {step : Except ε α} {f : α → β} {y : β}
    (h : (do return f (← step)) = Except.ok y) : ∃ x, step = .ok x ∧ f x = y := by
  obtain ⟨x, hx, hy⟩ := exists_of_bind_eq_ok h
  exact ⟨x, hx, Except.ok.inj hy⟩

end Stencil
