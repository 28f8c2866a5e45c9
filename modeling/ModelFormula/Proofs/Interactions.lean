import ModelFormula.Proofs.Evaluation
import ModelFormula.Proofs.NormalForm

/-!
# Interactions have no value

Distribution replaces every product that formula operators lead to, also one that is meant as
arithmetic: in `x - a * b` the product becomes `a + b + a&b`.  That such a sum is never computed in
place of the product rests on two facts: what is put there holds an interaction, and evaluation comes
to every call of an expression and has no value for one that it does not know.

* `Node.hasCall` — whether a call of an operator stands anywhere in an expression.
* `Node.hasCall_of_evaluate` — in an expression that has a value every operator is known.
* `Node.eq_or_hasCall_of_distribute` — distribution leaves an expression as it is, or puts an
  interaction into it.
* `Node.evaluated_as_written` — a distributed expression that has a value is the one that was written.
-/

set_option autoImplicit false

namespace ModelFormula

variable {registry : Registry} {source : Source}

/-- A call of an operator that is neither arithmetic nor a function of the registry has no value. -/
theorem applyCall_ne_ok {op : String} (no_arithmetic : arithmetic? (.text op) = none)
    (unknown : registry.find? (.text op) = none) (call : Node) (values : List Value) (v : Value) :
    applyCall registry call (.text op) values ≠ .ok v := by
  intro applied
  have refused : applyFunction call (.text op) registry values = .ok v := by
    unfold applyCall at applied
    rw [no_arithmetic] at applied
    exact applied
  unfold applyFunction at refused
  rw [unknown] at refused
  obtain ⟨term, -, thrown⟩ := bind_eq_ok.1 refused
  cases thrown

namespace Node

/-! ## Calls of an operator -/

mutual
/-- Whether a call of an operator stands anywhere in an expression. -/
def hasCall (op : String) : Node → Bool
  | .call f args => decide (f = .text op) || someHasCall op args
  | .symbol _ => false
  | .literal _ => false
  | .formula _ _ => false
  | .plain _ => false
def someHasCall (op : String) : List Node → Bool
  | [] => false
  | arg :: args => arg.hasCall op || someHasCall op args
end

mutual
/-- **In an expression that has a value every operator is known.** -/
theorem hasCall_of_evaluate {op : String} (no_arithmetic : arithmetic? (.text op) = none)
    (unknown : registry.find? (.text op) = none) : ∀ (node : Node) (v : Value),
    node.evaluate registry source = .ok v → node.hasCall op = false
  | .call f args, v, h => by
    rw [evaluate_call] at h
    obtain ⟨values, evaluated, applied⟩ := bind_eq_ok.1 h
    have other : f ≠ .text op := by
      rintro rfl
      exact applyCall_ne_ok no_arithmetic unknown _ values v applied
    have operands := someHasCall_of_evaluateAll no_arithmetic unknown args values evaluated
    simp [hasCall, other, operands]
  | .symbol _, _, _ => rfl
  | .literal _, _, _ => rfl
  | .formula _ _, _, _ => rfl
  | .plain _, _, _ => rfl
theorem someHasCall_of_evaluateAll {op : String} (no_arithmetic : arithmetic? (.text op) = none)
    (unknown : registry.find? (.text op) = none) : ∀ (nodes : List Node) (vs : List Value),
    evaluateAll registry source nodes = .ok vs → someHasCall op nodes = false
  | [], _, _ => rfl
  | node :: nodes, vs, h => by
    rw [evaluateAll_cons] at h
    obtain ⟨first, value, h⟩ := bind_eq_ok.1 h
    obtain ⟨rest, values, -⟩ := bind_eq_ok.1 h
    simp [someHasCall, hasCall_of_evaluate no_arithmetic unknown node first value,
      someHasCall_of_evaluateAll no_arithmetic unknown nodes rest values]
end

/-! ## Distribution -/

theorem hasCall_product (first second : Node) (rest : List Node) :
    (product first (second :: rest)).hasCall "&" = true := by
  have unfolded : product first (second :: rest) = crossed first (product second rest) := rfl
  rw [unfolded]
  simp [crossed, app, hasCall, someHasCall]

mutual
/-- **Distribution leaves an expression as it is, or puts an interaction into it.** -/
theorem eq_or_hasCall_of_distribute : ∀ node result : Node, node.distribute = .ok result →
    result = node ∨ result.hasCall "&" = true
  | .call op args, result, h => by
    cases callDistributed h with
    | kept foreign => exact Or.inl rfl
    | mapped formula other all =>
      rcases eq_or_someHasCall_of_distributeAll args _ all with same | changed
      · exact Or.inl (congrArg (Node.call op) same)
      · exact Or.inr (by simp [hasCall, changed])
    | replaced times all => exact Or.inr (hasCall_product _ _ _)
  | .symbol _, _, h => by cases h; exact Or.inl rfl
  | .literal _, _, h => by cases h; exact Or.inl rfl
  | .formula _ _, _, h => by cases h; exact Or.inl rfl
  | .plain _, _, h => by cases h; exact Or.inl rfl
theorem eq_or_someHasCall_of_distributeAll : ∀ args results : List Node,
    distributeAll args = .ok results → results = args ∨ someHasCall "&" results = true
  | [], _, h => by cases h; exact Or.inl rfl
  | arg :: args, results, h => by
    obtain ⟨first, rest, head, tail, rfl⟩ := distributeAll_cons_eq_ok h
    rcases eq_or_hasCall_of_distribute arg first head with same | changed
    · rcases eq_or_someHasCall_of_distributeAll args rest tail with others | changed
      · exact Or.inl (by rw [same, others])
      · exact Or.inr (by simp [someHasCall, changed])
    · exact Or.inr (by simp [someHasCall, changed])
end

/-- Where interactions are no function, a distributed expression that has a value is unchanged. -/
theorem eq_of_evaluate_distribute (unknown : registry.find? (.text "&") = none) {node result : Node}
    (distributed : node.distribute = .ok result) {v : Value}
    (value : result.evaluate registry source = .ok v) : result = node := by
  rcases eq_or_hasCall_of_distribute node result distributed with same | changed
  · exact same
  · rw [hasCall_of_evaluate rfl unknown result v value] at changed
    cases changed

/-- **Products are computed as written or not at all.**  A well-formed expression can be distributed,
and if what distribution gives has a value, or a column, it is the expression that was written, with no
product in the reach of distribution. -/
theorem evaluated_as_written (unknown : registry.find? (.text "&") = none) {node : Node}
    (h : node.wellFormed = true) : ∃ result, node.distribute = .ok result ∧
      ∀ source : Source,
        (∀ v, result.evaluate registry source = .ok v → result = node ∧ node.isDistributed = true) ∧
        ∀ xs, (evaluateColumn registry result source).outcome = .ok xs →
          result = node ∧ node.isDistributed = true := by
  obtain ⟨result, distributed⟩ := exists_distribute node h
  have written : ∀ (source : Source) (v : Value), result.evaluate registry source = .ok v →
      result = node ∧ node.isDistributed = true := by
    intro source v value
    have same := eq_of_evaluate_distribute unknown distributed value
    exact ⟨same, same ▸ isDistributed_distribute node result distributed⟩
  refine ⟨result, distributed, fun source => ⟨written source, fun xs column => ?_⟩⟩
  obtain ⟨v, value, -⟩ := Journal.outcome_bind_eq_ok.1 column
  exact written source v value

/-- The expression `x - I(a * b) / -c`. -/
def guardedProduct : Node :=
  .app "-" [.var "x", .app "/" [.app "I" [.app "*" [.var "a", .var "b"]], .app "-" [.var "c"]]]

/-- A table that has all columns of it. -/
def productTable : Table where
  columns :=
    [(.text "x", .doubles [1.0, 2.0]), (.text "a", .ints [some 2, some 3]),
      (.text "b", .doubles [0.5, 4.0]), (.text "c", .truths [some true, some true])]
  index := [.int 0, .int 1]
  length_eq := by decide

theorem evaluated_as_written_guardedProduct : ∃ result, guardedProduct.distribute = .ok result ∧
    (evaluateColumn .standard result (.table productTable)).outcome = .ok [2.0, 14.0] ∧
    result = guardedProduct := by
  have unknown : Registry.standard.find? (.text "&") = none := rfl
  obtain ⟨result, distributed, written⟩ := evaluated_as_written unknown
    (by decide : guardedProduct.wellFormed = true)
  have column : guardedProduct.distribute.toOption.map
      (fun node => (evaluateColumn .standard node (.table productTable)).outcome) =
        some (.ok [2.0, 14.0]) := by
    decide +kernel
  rw [distributed] at column
  have column := Option.some.inj column
  exact ⟨result, distributed, column, ((written _).2 _ column).1⟩

/-- The product of `x - a * b` would be a sum, so that there is no value. -/
example : (((app "-" [var "x", app "*" [var "a", var "b"]]).distribute.bind fun node =>
    node.evaluate .standard (.table productTable)).toOption.isNone) = true := by
  decide +kernel

end Node

end ModelFormula
