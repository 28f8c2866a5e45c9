import ModelFormula.Journal

/-!
# Outcomes of several steps

A computation of several steps succeeds exactly when each of its steps does, and its failure is that
of one of them.

* `bind_eq_ok`, `map_eq_ok` — for results that may be failures; `bind_eq_error`, `map_eq_error` —
  when they are.
* `Journal.outcome_bind_eq_ok`, `Journal.outcome_bind_eq_error` — for computations that also log.
-/

set_option autoImplicit false

namespace ModelFormula

variable {ε α β : Type}

theorem bind_eq_ok {x : Except ε α} {f : α → Except ε β} {b : β} :
    (x >>= f) = .ok b ↔ ∃ a, x = .ok a ∧ f a = .ok b := by
  cases x <;> simp [bind, Except.bind]

theorem bind_eq_error {x : Except ε α} {f : α → Except ε β} {e : ε} :
    (x >>= f) = .error e ↔ x = .error e ∨ ∃ a, x = .ok a ∧ f a = .error e := by
  cases x <;> simp [bind, Except.bind]

theorem map_eq_ok {x : Except ε α} {f : α → β} {b : β} :
    (f <$> x) = .ok b ↔ ∃ a, x = .ok a ∧ f a = b := by
  cases x <;> simp [Functor.map, Except.map]

theorem map_eq_error {x : Except ε α} {f : α → β} {e : ε} :
    (f <$> x) = .error e ↔ x = .error e := by
  cases x <;> simp [Functor.map, Except.map]

namespace Journal

theorem outcome_bind_eq_ok {x : Journal α} {f : α → Journal β} {b : β} :
    (x >>= f).outcome = .ok b ↔ ∃ a, x.outcome = .ok a ∧ (f a).outcome = .ok b := by
  rw [outcome_bind, bind_eq_ok]

theorem outcome_bind_eq_error {x : Journal α} {f : α → Journal β} {e : Failure} :
    (x >>= f).outcome = .error e ↔
      x.outcome = .error e ∨ ∃ a, x.outcome = .ok a ∧ (f a).outcome = .error e := by
  rw [outcome_bind, bind_eq_error]

end Journal

end ModelFormula
