/-!
# First failures

A computation of several steps fails as the first of its steps that fails, so its failure can be
looked for among the things that the steps are about.

* `failure?` — why a computation gives no result, if it gives none.
* `failure?_bind`, `failure?_bind_of_ok` — two steps fail as the first one does, else as the second.
* `failure?_mapM` — steps for the items of a list fail as the one for the first item that fails.
-/

set_option autoImplicit false

namespace ModelFormula

variable {ε α β : Type}

/-- Why a computation gives no result, if it gives none. -/
def failure? : Except ε α → Option ε
  | .ok _ => none
  | .error e => some e

@[simp] theorem failure?_ok (a : α) : failure? (.ok a : Except ε α) = none := rfl

@[simp] theorem failure?_error (e : ε) : failure? (.error e : Except ε α) = some e := rfl

theorem failure?_eq_some_iff {x : Except ε α} {e : ε} : failure? x = some e ↔ x = .error e := by
  cases x <;> simp

theorem failure?_eq_none_iff {x : Except ε α} : failure? x = none ↔ ∃ a, x = .ok a := by
  cases x <;> simp

@[simp] theorem failure?_map (f : α → β) (x : Except ε α) : failure? (f <$> x) = failure? x := by
  cases x <;> rfl

/-- Two steps fail as the first one does, else as the second. -/
theorem failure?_bind {x : Except ε α} {f : α → Except ε β} {second : Option ε}
    (h : ∀ a, x = .ok a → failure? (f a) = second) :
    failure? (x >>= f) = (failure? x).or second := by
  cases x with
  | error e => rfl
  | ok a => exact h a rfl

/-- A step that cannot fail after the first one does not matter. -/
theorem failure?_bind_of_ok {x : Except ε α} {f : α → Except ε β}
    (h : ∀ a, x = .ok a → ∃ b, f a = .ok b) : failure? (x >>= f) = failure? x := by
  rw [failure?_bind fun a done => failure?_eq_none_iff.2 (h a done), Option.or_none]

/-- Steps for the items of a list fail as the one for the first item that fails. -/
theorem failure?_mapM {f : α → Except ε β} {failing : α → Option ε} {xs : List α}
    (h : ∀ x ∈ xs, failure? (f x) = failing x) : failure? (xs.mapM f) = xs.findSome? failing := by
  induction xs with
  | nil => rfl
  | cons x xs ih =>
    have rest : ∀ y, failure? (xs.mapM f >>= fun ys => pure (y :: ys)) = xs.findSome? failing := by
      intro y
      rw [← ih fun z hz => h z (List.mem_cons_of_mem x hz)]
      cases xs.mapM f <;> rfl
    rw [List.mapM_cons, List.findSome?_cons, failure?_bind fun y _ => rest y,
      h x List.mem_cons_self]
    cases failing x <;> rfl

end ModelFormula
