import Mathlib.Logic.Relation
import ModelFormula.Proofs.RightFold

/-!
# The calls of distribution

What distribution is called on, when it goes on by itself: `Node.redistribute` calls it on operands
and on products of operands that are distributed already.

* `Node.Recurs` — one such call.
* `Node.redistribute_eq_distribute` — a step of distribution makes no other calls.
* `Node.wellFormed_of_recurs` — the calls of a well-formed node are on well-formed nodes.
* `Node.distributes_of_reached` — so no product that is reached from it is too short.
-/

set_option autoImplicit false

namespace ModelFormula.Node

/-- Distributing the first node distributes the second one on the way. -/
inductive Recurs : Node → Node → Prop where
  | operand {op : Plain} {args : List Node} {arg : Node} (formula : isFormulaOperator op = true)
      (mem : arg ∈ args) : Recurs (.call op args) arg
  /-- The product of the distributed operands but the first, if these are more than one. -/
  | others {args rest : List Node} {first second third : Node}
      (all : distributeAll args = .ok (first :: second :: third :: rest)) :
      Recurs (app "*" args) (app "*" (second :: third :: rest))

variable {node other : Node} {again : Node → Except Failure Node}

theorem mapM_eq_distributeAll_of_forall {args : List Node}
    (agree : ∀ arg ∈ args, again arg = arg.distribute) : args.mapM again = distributeAll args := by
  induction args with
  | nil => rfl
  | cons arg args ih =>
    have rest := ih fun other mem => agree other (List.mem_cons_of_mem _ mem)
    rw [distributeAll_eq_mapM, List.mapM_cons, List.mapM_cons, agree arg List.mem_cons_self, rest,
      distributeAll_eq_mapM]

/-- The fold of distributed operands calls it on the product of all but the first at most. -/
theorem productAgain_congr {args operands : List Node} (all : distributeAll args = .ok operands)
    (agree : ∀ other, (app "*" args).Recurs other → again other = other.distribute) (whole : Node) :
    productAgain again whole operands = productAgain distribute whole operands := by
  match operands, all with
  | [], _ => rfl
  | [_], _ => rfl
  | [_, _], _ => rfl
  | first :: second :: third :: rest, all =>
    rw [productAgain, productAgain, agree _ (.others all)]

/-- **A step of distribution calls it on these nodes alone.** -/
theorem redistribute_eq_distribute
    (agree : ∀ other, node.Recurs other → again other = other.distribute) :
    redistribute again node = node.distribute := by
  refine Eq.trans ?_ (congrFun redistribute_distribute node)
  cases node with
  | call op args =>
    by_cases formula : isFormulaOperator op = true
    · have operands : args.mapM again = distributeAll args :=
        mapM_eq_distributeAll_of_forall fun arg mem => agree arg (.operand formula mem)
      rw [redistribute_call again formula, redistribute_call distribute formula, operands,
        ← distributeAll_eq_mapM]
      cases all : distributeAll args with
      | error e => rfl
      | ok results =>
        by_cases times : op = .text "*"
        · subst times
          exact productAgain_congr all agree _
        · exact (if_neg times).trans (if_neg times).symm
    · have foreign : isFormulaOperator op = false := by simpa using formula
      rw [redistribute_call_of_other again foreign, redistribute_call_of_other distribute foreign]
  | _ => rfl

/-- **Distribution of a well-formed node goes on with well-formed nodes.** -/
theorem wellFormed_of_recurs (step : node.Recurs other) (h : node.wellFormed = true) :
    other.wellFormed = true := by
  cases step with
  | operand formula mem =>
    simp only [wellFormed, Bool.and_eq_true] at h
    exact (allWellFormed_iff _).1 h.2 _ mem
  | others all =>
    simp only [app, wellFormed, Bool.and_eq_true] at h
    have operands := allWellFormed_distributeAll _ _ h.2 all
    simp only [allWellFormed, Bool.and_eq_true] at operands
    simp [app, wellFormed, allWellFormed, operands, Plain.isName, isShortProduct]

theorem wellFormed_of_reached (h : node.wellFormed = true)
    (reached : Relation.ReflTransGen Recurs node other) : other.wellFormed = true := by
  induction reached with
  | refl => exact h
  | tail _ step ih => exact wellFormed_of_recurs step ih

/-- A well-formed product has two operands. -/
theorem two_le_length_of_wellFormed {args : List Node} (h : (app "*" args).wellFormed = true) :
    2 ≤ args.length := by
  simp only [app, wellFormed, Bool.and_eq_true] at h
  have long : ¬args.length < 2 := by simpa [isShortProduct] using h.1.2
  omega

/-- **All that distribution reaches from a well-formed node can be distributed**, and every product
there has two operands. -/
theorem distributes_of_reached (h : node.wellFormed = true)
    (reached : Relation.ReflTransGen Recurs node other) :
    (∀ args, other = app "*" args → 2 ≤ args.length) ∧ ∃ result, other.distribute = .ok result := by
  have well_formed := wellFormed_of_reached h reached
  refine ⟨?_, exists_distribute other well_formed⟩
  rintro args rfl
  exact two_le_length_of_wellFormed well_formed

end ModelFormula.Node
