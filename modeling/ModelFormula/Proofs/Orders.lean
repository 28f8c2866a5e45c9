import ModelFormula.Proofs.Incidence

/-!
# The order vector

The terms of a table stand in the order of their interaction orders, and the response, which has
order one, stands before them.  An interaction may be written without operands; it is the only term
of order zero.

* `Node.isEmptyInteraction` — an interaction of nothing; `Node.flatten_eq_empty_iff` — these are the
  expressions that flatten to an interaction without operands.
* `Node.addsEmptyInteraction` — one of the summands of an expression, its products multiplied out, is
  an interaction of nothing; `Node.addsEmptyInteraction_distribute` — distribution keeps that.
* `Expansion.empty_mem_terms_iff` — then, and only then, an interaction without operands is a term.
* `TermsTable.pairwise_order_iff` — then, and only then, the order vector of a two-sided formula is
  not sorted.
-/

set_option autoImplicit false

namespace ModelFormula

namespace Node

/-! ## Interactions of nothing -/

mutual
/-- Whether an expression is an interaction of which all operands are such interactions again, so
that it has no operand once it is flattened. -/
def isEmptyInteraction : Node → Bool
  | .call op args => decide (op = .text "&") && areEmptyInteractions args
  | .symbol _ => false
  | .literal _ => false
  | .formula _ _ => false
  | .plain _ => false
def areEmptyInteractions : List Node → Bool
  | [] => true
  | arg :: args => arg.isEmptyInteraction && areEmptyInteractions args
end

mutual
/-- Whether one of the summands of an expression is an interaction of nothing.  The operands of a
product are summands of what the product stands for. -/
def addsEmptyInteraction : Node → Bool
  | .call op args =>
    if op = .text "+" ∨ op = .text "*" then someAddsEmptyInteraction args
    else (Node.call op args).isEmptyInteraction
  | .symbol _ => false
  | .literal _ => false
  | .formula _ _ => false
  | .plain _ => false
def someAddsEmptyInteraction : List Node → Bool
  | [] => false
  | arg :: args => arg.addsEmptyInteraction || someAddsEmptyInteraction args
end

/-- The only terms of order zero are interactions without operands. -/
theorem interactionOrder_eq_zero_iff (node : Node) :
    node.interactionOrder = 0 ↔ node = app "&" [] := by
  cases node with
  | call op args =>
    by_cases interaction : op = .text "&"
    · subst interaction
      simp [interactionOrder, app]
    · simp [interactionOrder, app, interaction]
  | _ => simp [interactionOrder, app]

theorem addsEmptyInteraction_of_isEmptyInteraction {node : Node}
    (h : node.isEmptyInteraction = true) : node.addsEmptyInteraction = true := by
  cases node with
  | call op args =>
    have interaction : op = .text "&" := by
      simp only [isEmptyInteraction, Bool.and_eq_true, decide_eq_true_eq] at h
      exact h.1
    subst interaction
    unfold addsEmptyInteraction
    rw [if_neg (by simp)]
    exact h
  | _ => cases h

/-! ## Distribution -/

theorem addsEmptyInteraction_crossed (a s : Node) :
    (crossed a s).addsEmptyInteraction = (a.addsEmptyInteraction || s.addsEmptyInteraction) := by
  have both : (a.isEmptyInteraction && s.isEmptyInteraction) = true →
      a.addsEmptyInteraction = true := by
    intro h
    rw [Bool.and_eq_true] at h
    exact addsEmptyInteraction_of_isEmptyInteraction h.1
  have interaction : (app "&" [a, s]).addsEmptyInteraction =
      (a.isEmptyInteraction && s.isEmptyInteraction) := by
    simp [app, addsEmptyInteraction, isEmptyInteraction, areEmptyInteractions]
  have sum : (crossed a s).addsEmptyInteraction = (a.addsEmptyInteraction ||
      (s.addsEmptyInteraction || ((app "&" [a, s]).addsEmptyInteraction || false))) := by
    simp only [crossed, app, addsEmptyInteraction, someAddsEmptyInteraction, true_or, if_true]
  rw [sum, interaction]
  -- The interaction of both operands is one of nothing only if each of them is.
  cases ha : a.addsEmptyInteraction with
  | true => rfl
  | false =>
    cases hb : (a.isEmptyInteraction && s.isEmptyInteraction) with
    | true => rw [both hb] at ha; cases ha
    | false => simp

theorem addsEmptyInteraction_product (first : Node) (rest : List Node) :
    (product first rest).addsEmptyInteraction = someAddsEmptyInteraction (first :: rest) := by
  induction rest generalizing first with
  | nil => simp [product, someAddsEmptyInteraction]
  | cons second rest ih =>
    have unfolded : product first (second :: rest) = crossed first (product second rest) := rfl
    rw [unfolded, addsEmptyInteraction_crossed, ih]
    rfl

mutual
theorem isEmptyInteraction_distribute : ∀ node result : Node, node.distribute = .ok result →
    result.isEmptyInteraction = node.isEmptyInteraction
  | .call op args, result, h => by
    cases callDistributed h with
    | kept foreign => rfl
    | mapped formula other all =>
      simp [isEmptyInteraction, areEmptyInteractions_distributeAll args _ all]
    | replaced times all =>
      -- A product stands for a sum, and neither is an interaction.
      simp [product, crossed, app, isEmptyInteraction, times]
  | .symbol _, _, h => by cases h; rfl
  | .literal _, _, h => by cases h; rfl
  | .formula _ _, _, h => by cases h; rfl
  | .plain _, _, h => by cases h; rfl
theorem areEmptyInteractions_distributeAll : ∀ args results : List Node,
    distributeAll args = .ok results → areEmptyInteractions results = areEmptyInteractions args
  | [], _, h => by cases h; rfl
  | arg :: args, results, h => by
    obtain ⟨first, rest, head, tail, rfl⟩ := distributeAll_cons_eq_ok h
    simp [areEmptyInteractions, isEmptyInteraction_distribute arg first head,
      areEmptyInteractions_distributeAll args rest tail]
end

mutual
/-- Distribution neither makes nor removes a summand that is an interaction of nothing. -/
theorem addsEmptyInteraction_distribute : ∀ node result : Node, node.distribute = .ok result →
    result.addsEmptyInteraction = node.addsEmptyInteraction
  | .call op args, result, h => by
    have same := isEmptyInteraction_distribute (.call op args) result h
    cases callDistributed h with
    | kept foreign => rfl
    | mapped formula other all =>
      have operands := someAddsEmptyInteraction_distributeAll args _ all
      by_cases sum : op = .text "+"
      · simp [addsEmptyInteraction, sum, operands]
      · simp only [addsEmptyInteraction, sum, other, or_self, if_false]
        exact same
    | replaced times all =>
      subst times
      rw [addsEmptyInteraction_product, someAddsEmptyInteraction_distributeAll args _ all]
      simp [addsEmptyInteraction]
  | .symbol _, _, h => by cases h; rfl
  | .literal _, _, h => by cases h; rfl
  | .formula _ _, _, h => by cases h; rfl
  | .plain _, _, h => by cases h; rfl
theorem someAddsEmptyInteraction_distributeAll : ∀ args results : List Node,
    distributeAll args = .ok results →
      someAddsEmptyInteraction results = someAddsEmptyInteraction args
  | [], _, h => by cases h; rfl
  | arg :: args, results, h => by
    obtain ⟨first, rest, head, tail, rfl⟩ := distributeAll_cons_eq_ok h
    simp [someAddsEmptyInteraction, addsEmptyInteraction_distribute arg first head,
      someAddsEmptyInteraction_distributeAll args rest tail]
end

/-! ## Flattening -/

/-- An operand contributes nothing to an interaction exactly if it is one without operands. -/
theorem spread_eq_nil_iff (node : Node) :
    spread (.text "&") node = [] ↔ node = app "&" [] := by
  cases node with
  | call inner args =>
    by_cases same : inner = .text "&"
    · subst same
      simp [spread, isAssociative, app]
    · simp [spread, same, app]
  | _ => simp [spread, app]

mutual
/-- An expression flattens to the interaction without operands exactly if it is an interaction of
nothing. -/
theorem flatten_eq_empty_iff : ∀ node : Node,
    node.flatten = app "&" [] ↔ node.isEmptyInteraction = true
  | .call op args => by
    have operands := flattenInto_eq_nil_iff args
    by_cases interaction : op = .text "&"
    · subst interaction
      simp only [flatten, app, Node.call.injEq, true_and, isEmptyInteraction, decide_true,
        Bool.true_and]
      exact operands
    · simp [flatten, app, isEmptyInteraction, interaction]
  | .symbol _ => by simp [flatten, app, isEmptyInteraction]
  | .literal _ => by simp [flatten, app, isEmptyInteraction]
  | .formula _ _ => by simp [flatten, app, isEmptyInteraction]
  | .plain _ => by simp [flatten, app, isEmptyInteraction]
theorem flattenInto_eq_nil_iff : ∀ args : List Node,
    flattenInto (.text "&") args = [] ↔ areEmptyInteractions args = true
  | [] => by simp [flattenInto, areEmptyInteractions]
  | arg :: args => by
    rw [flattenInto, List.append_eq_nil_iff, spread_eq_nil_iff, flatten_eq_empty_iff arg,
      flattenInto_eq_nil_iff args, areEmptyInteractions, Bool.and_eq_true]
end

/-- A sum takes the summands of its operands in. -/
theorem spread_sum (node : Node) : spread (.text "+") node = node.summands := by
  cases node with
  | call inner args =>
    by_cases sum : inner = .text "+"
    · simp [spread, summands, isAssociative, sum]
    · simp [spread, summands, sum]
  | _ => rfl

mutual
/-- An interaction without operands is a summand of a flattened expression exactly if the expression,
in which no product is left, adds an interaction of nothing. -/
theorem empty_mem_summands_iff : ∀ node : Node, node.isDistributed = true →
    (app "&" [] ∈ node.flatten.summands ↔ node.addsEmptyInteraction = true)
  | .call op args, h => by
    by_cases sum : op = .text "+"
    · subst sum
      have all : areDistributed args = true := by
        simpa [isDistributed, isFormulaOperator] using h
      have summands_eq : (Node.call (.text "+") args).flatten.summands =
          flattenInto (.text "+") args := rfl
      rw [summands_eq, empty_mem_flattenInto_iff args all]
      simp [addsEmptyInteraction]
    · have no_product : op ≠ .text "*" := by
        rintro rfl
        simp [isDistributed, isFormulaOperator] at h
      have single : (Node.call op args).flatten.summands = [(Node.call op args).flatten] := by
        simp [flatten, summands, sum]
      rw [single, List.mem_singleton, eq_comm, flatten_eq_empty_iff]
      simp [addsEmptyInteraction, sum, no_product]
  | .symbol _, _ => by simp [flatten, summands, app, addsEmptyInteraction]
  | .literal _, _ => by simp [flatten, summands, app, addsEmptyInteraction]
  | .formula _ _, _ => by simp [flatten, summands, app, addsEmptyInteraction]
  | .plain _, _ => by simp [flatten, summands, app, addsEmptyInteraction]
theorem empty_mem_flattenInto_iff : ∀ args : List Node, areDistributed args = true →
    (app "&" [] ∈ flattenInto (.text "+") args ↔ someAddsEmptyInteraction args = true)
  | [], _ => by simp [flattenInto, someAddsEmptyInteraction]
  | arg :: args, h => by
    simp only [areDistributed, Bool.and_eq_true] at h
    rw [flattenInto, List.mem_append, spread_sum, empty_mem_summands_iff arg h.1,
      empty_mem_flattenInto_iff args h.2, someAddsEmptyInteraction, Bool.or_eq_true]
end

end Node

/-! ## Terms -/

/-- An interaction without operands is a term exactly if the right-hand side adds an interaction of
nothing. -/
theorem Expansion.empty_mem_terms_iff {right : Node} {x : Expansion} (h : ofNode right = .ok x) :
    Node.app "&" [] ∈ x.terms ↔ right.addsEmptyInteraction = true := by
  obtain ⟨⟨⟩, -, h⟩ := bind_eq_ok.1 h
  obtain ⟨distributed, hd, h⟩ := bind_eq_ok.1 h
  cases h
  have no_marker : ¬(Node.app "&" []).IsMarker := by
    rw [Node.isMarker_iff]
    decide
  rw [mem_terms_ofSummands, and_iff_left no_marker,
    Node.empty_mem_summands_iff distributed (Node.isDistributed_distribute right distributed hd),
    Node.addsEmptyInteraction_distribute right distributed hd]

namespace TermsTable

/-- With the order of a response before them, the orders of the terms are sorted exactly if none of
them is zero. -/
theorem pairwise_order_of_sorted {t : TermsTable}
    (sorted : (t.terms.map Node.interactionOrder).Pairwise (· ≤ ·)) :
    t.order.Pairwise (· ≤ ·) ↔ t.left = none ∨ Node.app "&" [] ∉ t.terms := by
  unfold order
  cases left : t.left with
  | none => simpa using sorted
  | some node =>
    have least : (∀ n ∈ t.terms.map Node.interactionOrder, 1 ≤ n) ↔ Node.app "&" [] ∉ t.terms := by
      constructor
      · intro positive mem
        have := positive _ (List.mem_map_of_mem mem)
        rw [(Node.interactionOrder_eq_zero_iff _).2 rfl] at this
        omega
      · intro absent n hn
        obtain ⟨term, ht, rfl⟩ := List.mem_map.1 hn
        have nonzero : term.interactionOrder ≠ 0 := by
          intro zero
          exact absent ((Node.interactionOrder_eq_zero_iff term).1 zero ▸ ht)
        omega
    show (1 :: t.terms.map Node.interactionOrder).Pairwise (· ≤ ·) ↔ _
    rw [List.pairwise_cons, least, and_iff_left sorted]
    simp

/-- **The order vector** of a well-formed formula is sorted exactly if the formula is one-sided or its
right-hand side adds no interaction of nothing.  The orders of the terms always are; only the order
of the response may be greater than that of a term after it, which is then zero. -/
theorem pairwise_order_iff {left : Option Node} {right : Node}
    (hl : ∀ node, left = some node → node.wellFormed = true) (hr : right.wellFormed = true) :
    ∃ t, (ofFormula (.formula left right)).outcome = .ok t ∧
      t.order = left.toList.map (fun _ => 1) ++ t.terms.map Node.interactionOrder ∧
      (t.terms.map Node.interactionOrder).Pairwise (· ≤ ·) ∧
      (t.order.Pairwise (· ≤ ·) ↔ left = none ∨ right.addsEmptyInteraction = false) := by
  obtain ⟨x, expanded, built⟩ := build_of_wellFormed hl hr
  have sorted : (x.terms.map Node.interactionOrder).Pairwise (· ≤ ·) :=
    List.pairwise_map.2 (Expansion.pairwise_of_ofNode expanded)
  refine ⟨_, (outcome_ofFormula left right).trans built, rfl, sorted, ?_⟩
  rw [pairwise_order_of_sorted sorted, Expansion.empty_mem_terms_iff expanded, Bool.not_eq_true]

/-- The right-hand side `a * (b + c&d)`. -/
def productOfSum : Node :=
  .app "*" [.var "a", .app "+" [.var "b", .app "&" [.var "c", .var "d"]]]

/-- The order vector of `y ~ a * (b + c&d)` is sorted. -/
theorem pairwise_order_iff_productOfSum : ∃ t,
    (ofFormula (.formula (some (.var "y")) productOfSum)).outcome = .ok t ∧
    t.order.Pairwise (· ≤ ·) := by
  have hl : ∀ node, some (Node.var "y") = some node → node.wellFormed = true := by
    intro node same
    cases same
    decide
  have hr : productOfSum.wellFormed = true := by decide
  obtain ⟨t, built, -, -, sorted⟩ := pairwise_order_iff hl hr
  have no_empty : productOfSum.addsEmptyInteraction = false := by decide
  exact ⟨t, built, sorted.2 (Or.inr no_empty)⟩

/-- In the table of `y ~ &()` the response comes before a term of smaller order. -/
theorem order_emptyInteraction :
    TermsTable.order <$> (ofFormula (.formula (some (.var "y")) (.app "&" []))).outcome =
      .ok [1, 0] := by
  cbv

end TermsTable

end ModelFormula
