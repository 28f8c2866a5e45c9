import ModelFormula.Proofs.NormalForm

/-!
# Regrouping

Two expressions differ in the grouping of `+`, `*` and `&` alone if each can be turned into the other
by moving parentheses inside chains of one of these operators.  Flattening gives one representative
for all of them.

* `Node.Regrouped` — the smallest congruence that merges nested calls of one associative operator.
* `Node.regrouped_flatten` — an expression and its flattening are regrouped.
* `Node.flatten_of_regrouped` — regrouped expressions have one flattening.
* `Node.leaves_flatten` — flattening keeps the leaves from left to right.
* `Node.flatten_canon` — flattening does not tell nodes apart that are equal by value.
* `Node.canonical_flatten` — flattening is a canonical form of regrouping.
-/

set_option autoImplicit false

namespace ModelFormula.Node

/-- The smallest congruence under which a call of an associative operator among the operands of
another stands for its own operands. -/
inductive Regrouped : Node → Node → Prop where
  | refl (e : Node) : Regrouped e e
  | symm {e f : Node} (h : Regrouped e f) : Regrouped f e
  | trans {e f g : Node} (h : Regrouped e f) (h' : Regrouped f g) : Regrouped e g
  | inside (op : Plain) (before after : List Node) {e f : Node} (h : Regrouped e f) :
      Regrouped (.call op (before ++ e :: after)) (.call op (before ++ f :: after))
  | merge {op : Plain} (associative : isAssociative op = true) (xs ys zs : List Node) :
      Regrouped (.call op (xs ++ .call op ys :: zs)) (.call op (xs ++ ys ++ zs))

mutual
/-- The symbols and literals of an expression, from left to right. -/
def leaves : Node → List Node
  | .call _ args => leavesOf args
  | node => [node]
def leavesOf : List Node → List Node
  | [] => []
  | arg :: args => arg.leaves ++ leavesOf args
end

theorem leavesOf_append (xs ys : List Node) : leavesOf (xs ++ ys) = leavesOf xs ++ leavesOf ys := by
  induction xs with
  | nil => rfl
  | cons x xs ih => rw [List.cons_append, leavesOf, leavesOf, ih, List.append_assoc]

/-! ## Soundness -/

/-- An operand and what it contributes to a call are regrouped there. -/
theorem regrouped_spread (op : Plain) (before after : List Node) (e : Node) :
    Regrouped (.call op (before ++ spread op e ++ after)) (.call op (before ++ e :: after)) := by
  by_cases same : merges op e = true
  · cases e with
    | call inner args =>
      unfold merges at same
      rw [spread, if_pos same]
      simp only [Bool.and_eq_true, decide_eq_true_eq] at same
      obtain ⟨associative, rfl⟩ := same
      exact .symm (.merge associative before args after)
    | _ => cases same
  · rw [spread_of_not_merges (by simpa using same), List.append_assoc, List.singleton_append]
    exact .refl _

mutual
/-- **An expression and its flattening are regrouped.** -/
theorem regrouped_flatten : ∀ e : Node, Regrouped e.flatten e
  | .call op args => regrouped_flattenInto op [] args
  | .symbol _ => .refl _
  | .literal _ => .refl _
  | .formula _ _ => .refl _
  | .plain _ => .refl _
/-- The operands of a call may be flattened from some place on. -/
theorem regrouped_flattenInto (op : Plain) (before : List Node) : ∀ args : List Node,
    Regrouped (.call op (before ++ flattenInto op args)) (.call op (before ++ args))
  | [] => .refl _
  | arg :: args => by
    have later : Regrouped (.call op (before ++ (spread op arg.flatten ++ flattenInto op args)))
        (.call op (before ++ (spread op arg.flatten ++ args))) := by
      rw [← List.append_assoc, ← List.append_assoc]
      exact regrouped_flattenInto op (before ++ spread op arg.flatten) args
    have gathered : Regrouped (.call op (before ++ (spread op arg.flatten ++ args)))
        (.call op (before ++ arg.flatten :: args)) := by
      rw [← List.append_assoc]
      exact regrouped_spread op before args arg.flatten
    exact .trans later (.trans gathered (.inside op before args (regrouped_flatten arg)))
end

/-! ## Completeness -/

theorem flattenInto_append (op : Plain) (xs ys : List Node) :
    flattenInto op (xs ++ ys) = flattenInto op xs ++ flattenInto op ys := by
  induction xs with
  | nil => rfl
  | cons x xs ih => rw [List.cons_append, flattenInto, flattenInto, ih, List.append_assoc]

/-- A call of an associative operator contributes its flattened operands to another. -/
theorem spread_call {op : Plain} (associative : isAssociative op = true) (args : List Node) :
    spread op (.call op args) = args := by
  rw [spread, if_pos (by simp [associative])]

/-- **Regrouped expressions have one flattening.** -/
theorem flatten_of_regrouped {e f : Node} (h : Regrouped e f) : e.flatten = f.flatten := by
  induction h with
  | refl => rfl
  | symm _ ih => exact ih.symm
  | trans _ _ ih ih' => exact ih.trans ih'
  | inside op before after _ ih =>
    rw [flatten, flatten, flattenInto_append, flattenInto_append, flattenInto, flattenInto, ih]
  | merge associative xs ys zs =>
    rw [flatten, flatten, flattenInto_append, flattenInto, flatten, spread_call associative,
      flattenInto_append, flattenInto_append, List.append_assoc]

/-! ## Leaves -/

theorem leavesOf_spread (op : Plain) (e : Node) : leavesOf (spread op e) = e.leaves := by
  unfold spread
  split
  · split
    · rfl
    · simp [leavesOf]
  · simp [leavesOf]

mutual
/-- **Flattening keeps the leaves from left to right.** -/
theorem leaves_flatten : ∀ e : Node, e.flatten.leaves = e.leaves
  | .call op args => leavesOf_flattenInto op args
  | .symbol _ => rfl
  | .literal _ => rfl
  | .formula _ _ => rfl
  | .plain _ => rfl
theorem leavesOf_flattenInto (op : Plain) : ∀ args : List Node,
    leavesOf (flattenInto op args) = leavesOf args
  | [] => rfl
  | arg :: args => by
    rw [flattenInto, leavesOf_append, leavesOf_spread, leaves_flatten arg,
      leavesOf_flattenInto op args]
    rfl
end

/-! ## Equality by value -/

theorem isAssociative_canon (op : Plain) : isAssociative op.canon = isAssociative op := by
  cases op with
  | float x =>
    rw [Plain.canon]
    split <;> rfl
  | _ => rfl

/-- An associative operator equals itself only. -/
theorem canon_eq_iff_of_isAssociative {op : Plain} (associative : isAssociative op = true)
    (inner : Plain) : inner.canon = op.canon ↔ inner = op := by
  refine ⟨fun same => ?_, fun same => same ▸ rfl⟩
  cases op with
  | text name =>
    cases inner with
    | text other => exact same
    | float x =>
      rw [Plain.canon] at same
      split at same <;> cases same
    | _ => cases same
  | _ => cases associative

theorem canonList_append (xs ys : List Node) :
    canonList (xs ++ ys) = canonList xs ++ canonList ys := by
  induction xs with
  | nil => rfl
  | cons x xs ih => rw [List.cons_append, canonList, canonList, ih, List.cons_append]

theorem spread_canon (op : Plain) (e : Node) :
    spread op.canon e.canon = canonList (spread op e) := by
  cases e with
  | call inner args =>
    by_cases associative : isAssociative op = true
    · by_cases same : inner = op
      · rw [canon, spread, spread, if_pos (by simp [isAssociative_canon, associative, same]),
          if_pos (by simp [associative, same])]
      · have apart := mt (canon_eq_iff_of_isAssociative associative inner).1 same
        rw [canon, spread, spread, if_neg (by simp [apart]), if_neg (by simp [same])]
        rfl
    · rw [canon, spread, spread, if_neg (by simp [isAssociative_canon, associative]),
        if_neg (by simp [associative])]
      rfl
  | formula left right => cases left <;> rfl
  | _ => rfl

mutual
/-- Flattening does not tell nodes apart that are equal by value. -/
theorem flatten_canon : ∀ e : Node, e.canon.flatten = e.flatten.canon
  | .call op args => by rw [canon, flatten, flatten, canon, flattenInto_canonList op args]
  | .symbol _ => rfl
  | .literal _ => rfl
  | .formula none _ => rfl
  | .formula (some _) _ => rfl
  | .plain _ => rfl
theorem flattenInto_canonList (op : Plain) : ∀ args : List Node,
    flattenInto op.canon (canonList args) = canonList (flattenInto op args)
  | [] => rfl
  | arg :: args => by
    rw [canonList, flattenInto, flattenInto, canonList_append, flatten_canon arg, spread_canon,
      flattenInto_canonList op args]
end

/-! ## The canonical form -/

/-- Regrouped expressions are those with one flattening. -/
theorem regrouped_iff (e f : Node) : Regrouped e f ↔ e.flatten = f.flatten := by
  refine ⟨flatten_of_regrouped, fun same => ?_⟩
  have through : Regrouped e.flatten f := same ▸ regrouped_flatten f
  exact .trans (.symm (regrouped_flatten e)) through

mutual
theorem hasLookupOperators_of_hasTextOperators : ∀ e : Node, e.hasTextOperators = true →
    e.hasLookupOperators = true
  | .call op args, h => by
    obtain ⟨⟨name, rfl⟩, all⟩ := hasTextOperators_call h
    simp [hasLookupOperators, Plain.hashable, haveLookupOperators_of_haveTextOperators args all]
  | .symbol _, _ => rfl
  | .literal _, _ => rfl
  | .formula _ _, _ => rfl
  | .plain _, _ => rfl
theorem haveLookupOperators_of_haveTextOperators : ∀ args : List Node,
    haveTextOperators args = true → haveLookupOperators args = true
  | [], _ => rfl
  | arg :: args, h => by
    simp only [haveTextOperators, Bool.and_eq_true] at h
    simp [haveLookupOperators, hasLookupOperators_of_hasTextOperators arg h.1,
      haveLookupOperators_of_haveTextOperators args h.2]
end

/-- **Flattening is the canonical form of regrouping**: an expression whose operators are texts can
be flattened, which regroups it and keeps its leaves; no call of an associative operator stands
directly below another any more; and two expressions have one flattening, as they stand or by value,
exactly if they are regrouped. -/
theorem canonical_flatten (e f : Node) :
    (e.hasTextOperators = true → e.flattened = .ok e.flatten) ∧
    Regrouped e.flatten e ∧
    (Regrouped e f ↔ e.flatten = f.flatten) ∧
    (Regrouped e.canon f.canon ↔ e.flatten.same f.flatten = true) ∧
    (∀ op args, e.flatten.Reaches (fun _ => true) (.call op args) → isAssociative op = true →
      ∀ inner, .call op inner ∉ args) ∧
    e.flatten.leaves = e.leaves := by
  refine ⟨fun named => ?_, regrouped_flatten e, regrouped_iff e f, ?_, fun op args reached => ?_,
    leaves_flatten e⟩
  · exact if_pos (hasLookupOperators_of_hasTextOperators e named)
  · rw [same_iff, ← flatten_canon, ← flatten_canon]
    exact regrouped_iff e.canon f.canon
  · exact not_mem_of_isFlat (isFlat_flatten e) reached

/-- A sum of nothing leaves nothing; a sum below another operator stays. -/
example : (app "+" [app "+" [], app "log" [app "+" [app "+" [var "a"], app "*" [app "+" []]]]]).flatten =
    app "+" [app "log" [app "+" [var "a", app "*" [app "+" []]]]] := by decide

end ModelFormula.Node
