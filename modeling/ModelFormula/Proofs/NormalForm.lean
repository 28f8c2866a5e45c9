import ModelFormula.Proofs.Terms

/-!
# Normal forms of expressions

What distribution and flattening arrive at.

* `Node.Reaches` — the calls that stand inside others.
* `Node.isDistributed` — no product stands below the formula operators;
  `Node.isDistributed_distribute`, `Node.distribute_of_isDistributed` — distribution ends there and
  changes nothing more; `Node.not_reaches_product` — no product is reached there.
* `Node.isFlat` — no operand of an associative operator is a call of the same one;
  `Node.isFlat_flatten`, `Node.flatten_of_isFlat` — the same for flattening; `Node.not_mem_of_isFlat`
  — no call stands directly below one of its own operator there.
* `Node.isDistributed_flatten` — flattening brings no product back.
* `Node.exists_distribute` — a well-formed expression can be distributed.
-/

set_option autoImplicit false

namespace ModelFormula.Node

/-! ## Parts of an expression -/

/-- What stands inside a node, below calls of the operators of one kind alone. -/
inductive Reaches (through : Plain → Bool) : Node → Node → Prop where
  | here (node : Node) : Reaches through node node
  | inside {op : Plain} {args : List Node} {arg target : Node} (passes : through op = true)
      (mem : arg ∈ args) (reached : Reaches through arg target) :
      Reaches through (.call op args) target

mutual
/-- Whether the operator of every call is a text. -/
def hasTextOperators : Node → Bool
  | .call (.text _) args => haveTextOperators args
  | .call _ _ => false
  | _ => true
def haveTextOperators : List Node → Bool
  | [] => true
  | arg :: args => arg.hasTextOperators && haveTextOperators args
end

theorem hasTextOperators_call {op : Plain} {args : List Node}
    (h : (Node.call op args).hasTextOperators = true) :
    (∃ name, op = .text name) ∧ haveTextOperators args = true := by
  cases op with
  | text name => exact ⟨⟨name, rfl⟩, h⟩
  | _ => cases h

/-! ## Distributed expressions -/

mutual
/-- Whether no product can be reached through formula operators alone. -/
def isDistributed : Node → Bool
  | .call op args => !isFormulaOperator op || (!decide (op = .text "*") && areDistributed args)
  | .symbol _ => true
  | .literal _ => true
  | .formula _ _ => true
  | .plain _ => true
def areDistributed : List Node → Bool
  | [] => true
  | arg :: args => arg.isDistributed && areDistributed args
end

theorem areDistributed_iff (nodes : List Node) :
    areDistributed nodes = true ↔ ∀ node ∈ nodes, node.isDistributed = true := by
  induction nodes with
  | nil => simp [areDistributed]
  | cons node nodes ih => simp [areDistributed, ih]

/-- In a distributed expression no product is reached. -/
theorem not_reaches_product {node : Node} (h : node.isDistributed = true) (args : List Node) :
    ¬node.Reaches isFormulaOperator (app "*" args) := by
  intro reached
  generalize target : app "*" args = product at reached
  induction reached with
  | here node =>
    subst target
    cases h
  | @inside op operands operand _ passes mem _ ih =>
    simp only [isDistributed, passes, Bool.not_true, Bool.false_or, Bool.and_eq_true] at h
    exact ih ((areDistributed_iff operands).1 h.2 operand mem) target

theorem isDistributed_crossed {a s : Node} (ha : a.isDistributed = true)
    (hs : s.isDistributed = true) : (crossed a s).isDistributed = true := by
  simp [crossed, app, isDistributed, areDistributed, ha, hs]

theorem isDistributed_product {first : Node} {rest : List Node} (h : first.isDistributed = true)
    (hs : areDistributed rest = true) : (product first rest).isDistributed = true := by
  induction rest generalizing first with
  | nil => exact h
  | cons second rest ih =>
    simp only [areDistributed, Bool.and_eq_true] at hs
    exact isDistributed_crossed h (ih hs.1 hs.2)

mutual
/-- **What distribution gives holds no product below the formula operators.** -/
theorem isDistributed_distribute : ∀ node result : Node, node.distribute = .ok result →
    result.isDistributed = true
  | .call op args, result, h => by
    cases callDistributed h with
    | kept foreign => simp [isDistributed, foreign]
    | mapped formula other all =>
      simp [isDistributed, areDistributed_distributeAll args _ all, other]
    | replaced times all =>
      have operands := areDistributed_distributeAll args _ all
      simp only [areDistributed, Bool.and_eq_true] at operands
      exact isDistributed_product operands.1 (by simp [areDistributed, operands.2])
  | .symbol _, _, h => by cases h; rfl
  | .literal _, _, h => by cases h; rfl
  | .formula _ _, _, h => by cases h; rfl
  | .plain _, _, h => by cases h; rfl
theorem areDistributed_distributeAll : ∀ args results : List Node,
    distributeAll args = .ok results → areDistributed results = true
  | [], _, h => by cases h; rfl
  | arg :: args, results, h => by
    obtain ⟨first, rest, head, tail, rfl⟩ := distributeAll_cons_eq_ok h
    simp [areDistributed, isDistributed_distribute arg first head,
      areDistributed_distributeAll args rest tail]
end

/-- The operator of a well-formed call can be looked up. -/
theorem hashable_of_isName {op : Plain} (h : op.isName = true) : op.hashable = true := by
  cases op with
  | text s => rfl
  | _ => cases h

mutual
/-- Where no product is left, distribution changes nothing. -/
theorem distribute_of_isDistributed : ∀ node : Node, node.wellFormed = true →
    node.isDistributed = true → node.distribute = .ok node
  | .call op args, h, hd => by
    simp only [wellFormed, Bool.and_eq_true] at h
    have named := hashable_of_isName h.1.1
    unfold distribute
    rw [if_neg (by simp [named])]
    by_cases formula : isFormulaOperator op = true
    · simp only [isDistributed, formula, Bool.not_true, Bool.false_or, Bool.and_eq_true,
        Bool.not_eq_true', decide_eq_false_iff_not] at hd
      rw [if_pos formula, distributeAll_of_areDistributed args h.2 hd.2]
      simp only [if_neg hd.1]
    · rw [if_neg formula]
  | .symbol _, _, _ => rfl
  | .literal _, _, _ => rfl
  | .formula _ _, _, _ => rfl
  | .plain _, _, _ => rfl
theorem distributeAll_of_areDistributed : ∀ args : List Node, allWellFormed args = true →
    areDistributed args = true → distributeAll args = .ok args
  | [], _, _ => rfl
  | arg :: args, h, hd => by
    simp only [allWellFormed, Bool.and_eq_true] at h
    simp only [areDistributed, Bool.and_eq_true] at hd
    unfold distributeAll
    rw [distribute_of_isDistributed arg h.1 hd.1, distributeAll_of_areDistributed args h.2 hd.2]
end

mutual
/-- A well-formed expression can be distributed. -/
theorem exists_distribute : ∀ node : Node, node.wellFormed = true →
    ∃ result, node.distribute = .ok result
  | .call op args, h => by
    simp only [wellFormed, Bool.and_eq_true, Bool.not_eq_true'] at h
    obtain ⟨operands, all, size⟩ := exists_distributeAll args h.2
    unfold distribute
    rw [if_neg (by simp [hashable_of_isName h.1.1])]
    by_cases formula : isFormulaOperator op = true
    · rw [if_pos formula, all]
      by_cases product : op = .text "*"
      · -- Distribution keeps the number of operands, so a product still has two.
        have long : ¬args.length < 2 := by simpa [isShortProduct, product] using h.1.2
        match operands, size with
        | [], size => simp at size; omega
        | [_], size => simp at size; omega
        | first :: second :: rest, _ => simp [product]
      · simp [product]
    · simp [formula]
  | .symbol _, _ => ⟨_, rfl⟩
  | .literal _, _ => ⟨_, rfl⟩
  | .formula _ _, h => by cases h
  | .plain _, h => by cases h
theorem exists_distributeAll : ∀ args : List Node, allWellFormed args = true →
    ∃ results, distributeAll args = .ok results ∧ results.length = args.length
  | [], _ => ⟨[], rfl, rfl⟩
  | arg :: args, h => by
    simp only [allWellFormed, Bool.and_eq_true] at h
    obtain ⟨first, hf⟩ := exists_distribute arg h.1
    obtain ⟨rest, hs, size⟩ := exists_distributeAll args h.2
    refine ⟨first :: rest, ?_, by simp [size]⟩
    unfold distributeAll
    rw [hf, hs]
end

/-! ## Flat expressions -/

/-- Whether the operands of a node take its place among those of a call of `op`. -/
def merges (op : Plain) : Node → Bool
  | .call inner _ => isAssociative op && decide (inner = op)
  | _ => false

mutual
/-- Whether no operand of an associative operator is a call of the same one, at any depth. -/
def isFlat : Node → Bool
  | .call op args => areFlat op args
  | .symbol _ => true
  | .literal _ => true
  | .formula _ _ => true
  | .plain _ => true
/-- Whether the operands of a call of `op` are flat and none of them merges into it. -/
def areFlat (op : Plain) : List Node → Bool
  | [] => true
  | arg :: args => arg.isFlat && !merges op arg && areFlat op args
end

theorem areFlat_iff (op : Plain) (nodes : List Node) : areFlat op nodes = true ↔
    ∀ node ∈ nodes, node.isFlat = true ∧ merges op node = false := by
  induction nodes with
  | nil => simp [areFlat]
  | cons node nodes ih => simp [areFlat, ih]

/-- In a flat expression no call of an associative operator stands directly below another. -/
theorem not_mem_of_isFlat {node : Node} (h : node.isFlat = true) {op : Plain} {args : List Node}
    (reached : node.Reaches (fun _ => true) (.call op args)) (associative : isAssociative op = true)
    (inner : List Node) : .call op inner ∉ args := by
  generalize target : Node.call op args = call at reached
  induction reached with
  | here node =>
    subst target
    intro mem
    have apart := ((areFlat_iff op args).1 h _ mem).2
    simp [merges, associative] at apart
  | @inside outer operands operand _ _ mem _ ih =>
    exact ih ((areFlat_iff outer operands).1 h operand mem).1 target

theorem spread_of_not_merges {op : Plain} {node : Node} (h : merges op node = false) :
    spread op node = [node] := by
  cases node with
  | call inner args =>
    unfold merges at h
    rw [spread, if_neg (by simp [h])]
  | _ => rfl

/-- A flat operand contributes flat operands none of which merges. -/
theorem areFlat_spread (op : Plain) {node : Node} (h : node.isFlat = true) :
    areFlat op (spread op node) = true := by
  by_cases same : merges op node = true
  · cases node with
    | call inner args =>
      unfold merges at same
      rw [spread, if_pos same]
      simp only [Bool.and_eq_true, decide_eq_true_eq] at same
      rw [← same.2]
      exact h
    | _ => cases same
  · rw [spread_of_not_merges (by simpa using same)]
    simp [areFlat, h, same]

mutual
/-- **Flattening gives a flat expression.** -/
theorem isFlat_flatten : ∀ node : Node, node.flatten.isFlat = true
  | .call op args => areFlat_flattenInto op args
  | .symbol _ => rfl
  | .literal _ => rfl
  | .formula _ _ => rfl
  | .plain _ => rfl
theorem areFlat_flattenInto (op : Plain) : ∀ args : List Node,
    areFlat op (flattenInto op args) = true
  | [] => rfl
  | arg :: args => by
    have head := areFlat_spread op (isFlat_flatten arg)
    have tail := areFlat_flattenInto op args
    rw [areFlat_iff] at head tail ⊢
    intro node hn
    rcases List.mem_append.1 hn with hn | hn
    · exact head node hn
    · exact tail node hn
end

mutual
/-- Flattening changes nothing in a flat expression. -/
theorem flatten_of_isFlat : ∀ node : Node, node.isFlat = true → node.flatten = node
  | .call op args, h => congrArg (Node.call op) (flattenInto_of_areFlat op args h)
  | .symbol _, _ => rfl
  | .literal _, _ => rfl
  | .formula _ _, _ => rfl
  | .plain _, _ => rfl
theorem flattenInto_of_areFlat (op : Plain) : ∀ args : List Node, areFlat op args = true →
    flattenInto op args = args
  | [], _ => rfl
  | arg :: args, h => by
    simp only [areFlat, Bool.and_eq_true, Bool.not_eq_true'] at h
    rw [flattenInto, flatten_of_isFlat arg h.1.1, spread_of_not_merges h.1.2,
      flattenInto_of_areFlat op args h.2]
    rfl
end

/-! ## Both -/

/-- What a distributed operand contributes to a call of a formula operator is distributed. -/
theorem areDistributed_spread {op : Plain} (formula : isFormulaOperator op = true) {node : Node}
    (h : node.isDistributed = true) : areDistributed (spread op node) = true := by
  by_cases same : merges op node = true
  · cases node with
    | call inner args =>
      unfold merges at same
      rw [spread, if_pos same]
      simp only [Bool.and_eq_true, decide_eq_true_eq] at same
      rw [same.2] at h
      simp only [isDistributed, formula, Bool.not_true, Bool.false_or, Bool.and_eq_true] at h
      exact h.2
    | _ => cases same
  · rw [spread_of_not_merges (by simpa using same)]
    simp [areDistributed, h]

mutual
/-- Flattening brings no product back below the formula operators. -/
theorem isDistributed_flatten : ∀ node : Node, node.isDistributed = true →
    node.flatten.isDistributed = true
  | .call op args, h => by
    by_cases formula : isFormulaOperator op = true
    · simp only [isDistributed, formula, Bool.not_true, Bool.false_or, Bool.and_eq_true] at h
      simp [flatten, isDistributed, h.1, areDistributed_flattenInto formula args h.2]
    · simp [flatten, isDistributed, formula]
  | .symbol _, _ => rfl
  | .literal _, _ => rfl
  | .formula _ _, _ => rfl
  | .plain _, _ => rfl
theorem areDistributed_flattenInto {op : Plain} (formula : isFormulaOperator op = true) :
    ∀ args : List Node, areDistributed args = true →
      areDistributed (flattenInto op args) = true
  | [], _ => rfl
  | arg :: args, h => by
    simp only [areDistributed, Bool.and_eq_true] at h
    have head := areDistributed_spread formula (isDistributed_flatten arg h.1)
    have tail := areDistributed_flattenInto formula args h.2
    rw [areDistributed_iff] at head tail ⊢
    intro node hn
    rcases List.mem_append.1 hn with hn | hn
    · exact head node hn
    · exact tail node hn
end

end ModelFormula.Node
