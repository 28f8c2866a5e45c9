import ModelFormula.Proofs.FirstFailure
import ModelFormula.Proofs.Recursion
import ModelFormula.Proofs.Session.Logging

/-!
# Malformed formulas

The table of a formula is refused for the first malformed node in it, and for nothing else.

* `Node.preorder` — the nodes of an expression, a call before its arguments.
* `Node.isMalformed`, `Node.defect` — the nodes that are refused by themselves, and as what.
* `Node.failure?_validate` — validation fails at the first malformed node.
* `TermsTable.failure?_build` — so does the table of a formula, with the right-hand side first.
* `TermsTable.result_ofFormula` — when making the table of a value fails, and how.
-/

set_option autoImplicit false

namespace ModelFormula

namespace Node

mutual
/-- The nodes of an expression: a call before its arguments, and these from left to right. -/
def preorder : Node → List Node
  | .call op args => .call op args :: preorderAll args
  | .symbol name => [.symbol name]
  | .literal value => [.literal value]
  | .formula left right => [.formula left right]
  | .plain value => [.plain value]
def preorderAll : List Node → List Node
  | [] => []
  | arg :: args => arg.preorder ++ preorderAll args
end

/-- Whether a node is no part of an expression, whatever its arguments are. -/
def isMalformed : Node → Bool
  | .symbol name => !name.isName
  | .literal value => !value.isNumber
  | .call op args => !op.isName || isShortProduct op args
  | .formula _ _ => true
  | .plain _ => true

/-- What is expected in the place of a malformed node. -/
def expectation : Node → String
  | .symbol _ => "symbol with a non-empty name"
  | .literal _ => "numeric literal"
  | .call op _ =>
    if op.isName then "product of at least two operands" else "call with a non-empty operator"
  | .formula _ _ => "call expression"
  | .plain _ => "call expression"

/-- The failure that a malformed node is. -/
def defect (node : Node) : Failure := .malformed node node.expectation

/-- The failure that the first malformed node is, if there is one. -/
def firstDefect? (nodes : List Node) : Option Failure := (nodes.find? isMalformed).map defect

theorem firstDefect?_cons (node : Node) (nodes : List Node) :
    firstDefect? (node :: nodes) =
      if node.isMalformed then some node.defect else firstDefect? nodes := by
  rw [firstDefect?, List.find?_cons]
  cases node.isMalformed <;> rfl

theorem firstDefect?_append (xs ys : List Node) :
    firstDefect? (xs ++ ys) = (firstDefect? xs).or (firstDefect? ys) := by
  rw [firstDefect?, List.find?_append, Option.map_or]
  rfl

theorem firstDefect?_eq_some_iff {nodes : List Node} {e : Failure} :
    firstDefect? nodes = some e ↔
      ∃ node, nodes.find? isMalformed = some node ∧ e = .malformed node node.expectation := by
  rw [firstDefect?, Option.map_eq_some_iff]
  exact exists_congr fun node => and_congr_right fun _ => eq_comm

theorem firstDefect?_eq_none_iff {nodes : List Node} :
    firstDefect? nodes = none ↔ ∀ node ∈ nodes, node.isMalformed = false := by
  rw [firstDefect?, Option.map_eq_none_iff, List.find?_eq_none]
  simp only [Bool.not_eq_true]

/-- A call is checked before its arguments. -/
theorem failure?_validate_call (op : Plain) (args : List Node) :
    failure? (Node.call op args).validate =
      if (Node.call op args).isMalformed then some (Node.call op args).defect
      else failure? (validateAll args) := by
  cases named : op.isName <;> cases short : isShortProduct op args <;>
    simp [validate, isMalformed, defect, expectation, named, short]

theorem failure?_validateAll_cons (arg : Node) (args : List Node) :
    failure? (validateAll (arg :: args)) =
      (failure? arg.validate).or (failure? (validateAll args)) := by
  rw [validateAll]
  cases arg.validate <;> rfl

mutual
/-- **Validation fails at the first malformed node.** -/
theorem failure?_validate : ∀ node : Node, failure? node.validate = firstDefect? node.preorder
  | .symbol name => by
    cases named : name.isName <;>
      simp [validate, preorder, firstDefect?_cons, isMalformed, named] <;> rfl
  | .literal value => by
    cases number : value.isNumber <;>
      simp [validate, preorder, firstDefect?_cons, isMalformed, number] <;> rfl
  | .call op args => by
    rw [failure?_validate_call, failure?_validateAll args, preorder, firstDefect?_cons]
  | .formula _ _ => rfl
  | .plain _ => rfl
theorem failure?_validateAll :
    ∀ args : List Node, failure? (validateAll args) = firstDefect? (preorderAll args)
  | [] => rfl
  | arg :: args => by
    rw [failure?_validateAll_cons, failure?_validate arg, failure?_validateAll args, preorderAll,
      firstDefect?_append]
end

/-- An expression without malformed nodes is well formed. -/
theorem wellFormed_of_preorder {node : Node}
    (sound : ∀ part ∈ node.preorder, part.isMalformed = false) : node.wellFormed = true := by
  obtain ⟨⟨⟩, valid⟩ : ∃ u, node.validate = .ok u := by
    rw [← failure?_eq_none_iff, failure?_validate]
    exact firstDefect?_eq_none_iff.2 sound
  exact (validate_eq_ok_iff node).1 valid

end Node

/-- An expansion is refused for the first malformed node alone. -/
theorem Expansion.failure?_ofNode (right : Node) :
    failure? (Expansion.ofNode right) = Node.firstDefect? right.preorder := by
  rw [← Node.failure?_validate]
  cases valid : right.validate with
  | error e =>
    rw [Expansion.ofNode, valid]
    rfl
  | ok u =>
    obtain ⟨x, expanded⟩ := Expansion.exists_ofNode ((Node.validate_eq_ok_iff right).1 valid)
    rw [expanded]
    rfl

namespace TermsTable

/-- The nodes of a formula in the order in which they are checked. -/
def nodes (left : Option Node) (right : Node) : List Node :=
  right.preorder ++ left.toList.flatMap Node.preorder

/-- **A table is refused for the first malformed node**, the right-hand side before the left. -/
theorem failure?_build (left : Option Node) (right : Node) :
    failure? (build left right) = Node.firstDefect? (nodes left right) := by
  rw [nodes, Node.firstDefect?_append, ← Expansion.failure?_ofNode]
  refine failure?_bind fun x _ => ?_
  cases left with
  | none => rfl
  | some node =>
    have single : (some node).toList.flatMap Node.preorder = node.preorder :=
      List.append_nil node.preorder
    rw [single, ← Node.failure?_validate]
    show failure? (node.validate >>= _) = _
    cases node.validate <;> rfl

theorem outcome_ofFormula_of_ne {v : Node} (other : ∀ left right, v ≠ .formula left right) :
    (ofFormula v).outcome = .error (.malformed v "Formula") := by
  cases v with
  | formula left right => exact absurd rfl (other left right)
  | _ => rfl

theorem outcome_ofFormula_eq_error_iff {v : Node} {e : Failure} :
    (ofFormula v).outcome = .error e ↔
      ((∀ left right, v ≠ .formula left right) ∧ e = .malformed v "Formula") ∨
      ∃ left right node, v = .formula left right ∧
        (nodes left right).find? Node.isMalformed = some node ∧
        e = .malformed node node.expectation := by
  by_cases formula : ∃ left right, v = .formula left right
  · obtain ⟨left, right, rfl⟩ := formula
    rw [outcome_ofFormula, ← failure?_eq_some_iff, failure?_build, Node.firstDefect?_eq_some_iff]
    constructor
    · rintro ⟨node, found, rfl⟩
      exact .inr ⟨left, right, node, rfl, found, rfl⟩
    · rintro (⟨other, -⟩ | ⟨_, _, node, same, found, rfl⟩)
      · exact absurd rfl (other left right)
      · cases same
        exact ⟨node, found, rfl⟩
  · have other : ∀ left right, v ≠ .formula left right :=
      fun left right same => formula ⟨left, right, same⟩
    rw [outcome_ofFormula_of_ne other]
    constructor
    · rintro ⟨⟩
      exact .inl ⟨other, rfl⟩
    · rintro (⟨-, rfl⟩ | ⟨left, right, _, same, -⟩)
      · rfl
      · exact absurd same (other left right)

theorem exists_outcome_ofFormula_iff {v : Node} :
    (∃ t, (ofFormula v).outcome = .ok t) ↔
      ∃ left right, v = .formula left right ∧
        ∀ node ∈ nodes left right, node.isMalformed = false := by
  have sound_iff : ∀ left right, (∃ t, (ofFormula (.formula left right)).outcome = .ok t) ↔
      ∀ node ∈ nodes left right, node.isMalformed = false := fun left right => by
    rw [outcome_ofFormula, ← failure?_eq_none_iff, failure?_build, Node.firstDefect?_eq_none_iff]
  constructor
  · rintro ⟨t, made⟩
    by_cases formula : ∃ left right, v = .formula left right
    · obtain ⟨left, right, rfl⟩ := formula
      exact ⟨left, right, rfl, (sound_iff left right).1 ⟨t, made⟩⟩
    · rw [outcome_ofFormula_of_ne fun left right same => formula ⟨left, right, same⟩] at made
      cases made
  · rintro ⟨left, right, rfl, sound⟩
    exact (sound_iff left right).2 sound

/-- **Making the table of a value fails exactly if the value is no formula or holds a malformed
node**, and then with the value or the first such node: a call comes before its arguments, and the
right-hand side before the left.  Else a table is made.  Where the right-hand side is not refused,
the distribution of its products, which goes on with products that have grown, reaches no product of
fewer than two operands. -/
theorem result_ofFormula {s : Session} (by_default : s.settings.logging = {}) (v : Node) :
    (∀ e, s.result (ofFormula v) = .error e ↔
      ((∀ left right, v ≠ .formula left right) ∧ e = .malformed v "Formula") ∨
      ∃ left right node, v = .formula left right ∧
        (nodes left right).find? Node.isMalformed = some node ∧
        e = .malformed node node.expectation) ∧
    ((∃ t, s.result (ofFormula v) = .ok t) ↔
      ∃ left right, v = .formula left right ∧
        ∀ node ∈ nodes left right, node.isMalformed = false) ∧
    ∀ left right, v = .formula left right → (∀ node ∈ right.preorder, node.isMalformed = false) →
      ∀ reached, Relation.ReflTransGen Node.Recurs right reached →
        (∀ args, reached = .app "*" args → 2 ≤ args.length) ∧
          ∃ result, reached.distribute = .ok result := by
  simp only [Session.result_of_default by_default]
  refine ⟨fun e => outcome_ofFormula_eq_error_iff, exists_outcome_ofFormula_iff, ?_⟩
  rintro left right - sound reached reaches
  exact Node.distributes_of_reached (Node.wellFormed_of_preorder sound) reaches

/-- A formula with a product of one operand on the left, and on the right a call without an operator
on a symbol without a name. -/
def faultyFormula : Node :=
  .formula (some (.app "*" [.var "y"]))
    (.app "+" [.var "a", .app "*" [.var "b", .app "" [.var ""]]])

/-- The right-hand side `a * b * c`. -/
def threeFactors : Node := .app "*" [.var "a", .var "b", .var "c"]

/-- Of the three faults that of the call is reported.  Of `a * b * c` a table is made, and `b * c`
is distributed on the way. -/
theorem result_ofFormula_faultyFormula :
    (({} : Session).result (ofFormula faultyFormula) =
      .error (.malformed (.app "" [.var ""]) "call with a non-empty operator")) ∧
    (∃ t, ({} : Session).result (ofFormula (.formula none threeFactors)) = .ok t) ∧
    ∃ result, (Node.app "*" [.var "b", .var "c"]).distribute = .ok result := by
  have sound : ∀ node ∈ threeFactors.preorder, node.isMalformed = false := by decide
  have operands : Node.distributeAll [.var "a", .var "b", .var "c"] =
      .ok [.var "a", .var "b", .var "c"] := rfl
  have reaches : Relation.ReflTransGen Node.Recurs threeFactors (.app "*" [.var "b", .var "c"]) :=
    .single (.others operands)
  obtain ⟨failed, -, -⟩ := result_ofFormula (s := {}) rfl faultyFormula
  obtain ⟨-, made, distributed⟩ := result_ofFormula (s := {}) rfl (.formula none threeFactors)
  refine ⟨(failed _).2 (.inr ⟨_, _, .app "" [.var ""], rfl, by decide, by decide⟩),
    made.2 ⟨none, threeFactors, rfl, by decide⟩, ?_⟩
  exact (distributed none threeFactors rfl sound _ reaches).2

end TermsTable

end ModelFormula
