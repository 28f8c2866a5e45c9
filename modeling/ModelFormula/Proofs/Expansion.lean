import ModelFormula.Proofs.NormalForm

/-!
# Expansions as normal forms

The terms of an expansion, put into one sum, expand to themselves.

* `Node.IsTerm` — a term that expansion leaves as it is; `Expansion.isTerm_of_ofNode` — the terms of
  an expansion are such terms.
* `Expansion.pairwise_of_ofNode` — they stand in the order of their interaction orders.
* `Expansion.exists_ofNode` — a well-formed right-hand side has an expansion.
* `Expansion.canonical_of_wellFormed` — the sum of its terms has the same expansion.
-/

set_option autoImplicit false

namespace ModelFormula

namespace Node

/-- A summand that says something about the intercept and is no term: a literal equal to one, zero
or minus one, or the literal one under a minus sign. -/
inductive IsMarker : Node → Prop where
  | one {value : Plain} (same : value.same (.int 1) = true) : IsMarker (.literal value)
  | zero {value : Plain} (same : value.same (.int 0) = true) : IsMarker (.literal value)
  | minus_one {value : Plain} (same : value.same (.int (-1)) = true) : IsMarker (.literal value)
  | negative {value : Plain} (same : value.same (.int 1) = true) :
      IsMarker (.app "-" [.literal value])

theorem isNumber_iff {n : Int} {node : Node} :
    node.isNumber n = true ↔ ∃ value, node = .literal value ∧ value.same (.int n) = true := by
  cases node <;> simp [isNumber]

theorem removesIntercept_iff {node : Node} : node.removesIntercept = true ↔
    (∃ operand : Node, node = .app "-" [operand] ∧ operand.isNumber 1 = true) ∨
      node.isNumber 0 = true ∨ node.isNumber (-1) = true := by
  unfold removesIntercept
  split
  · rename_i op operand
    rw [Bool.and_eq_true, decide_eq_true_eq]
    constructor
    · rintro ⟨rfl, one⟩
      exact Or.inl ⟨operand, rfl, one⟩
    · rintro (⟨_, same, one⟩ | number)
      · cases same
        exact ⟨rfl, one⟩
      · simp [isNumber] at number
  · rename_i other
    rw [Bool.or_eq_true]
    constructor
    · exact Or.inr
    · rintro (⟨operand, rfl, -⟩ | number)
      · exact absurd rfl (other _ _)
      · exact number

/-- The markers are the summands that expansion takes out. -/
theorem isMarker_iff {node : Node} :
    node.IsMarker ↔ node.isNumber 1 = true ∨ node.removesIntercept = true := by
  rw [removesIntercept_iff]
  constructor
  · intro h
    cases h with
    | one same => exact Or.inl same
    | zero same => exact Or.inr (Or.inr (Or.inl same))
    | minus_one same => exact Or.inr (Or.inr (Or.inr same))
    | negative same => exact Or.inr (Or.inl ⟨_, rfl, same⟩)
  · rintro (one | ⟨operand, rfl, one⟩ | zero | minus_one)
    · obtain ⟨value, rfl, same⟩ := isNumber_iff.1 one
      exact .one same
    · obtain ⟨value, rfl, same⟩ := isNumber_iff.1 one
      exact .negative same
    · obtain ⟨value, rfl, same⟩ := isNumber_iff.1 zero
      exact .zero same
    · obtain ⟨value, rfl, same⟩ := isNumber_iff.1 minus_one
      exact .minus_one same

/-- A term that expansion leaves as it is. -/
structure IsTerm (node : Node) : Prop where
  wellFormed : node.wellFormed = true
  distributed : node.isDistributed = true
  flat : node.isFlat = true
  no_sum : node.isCallOf "+" = false
  no_marker : ¬node.IsMarker

/-- The summands of an expression in normal form are in normal form and no sums. -/
theorem normal_of_mem_summands {node : Node} (well_formed : node.wellFormed = true)
    (distributed : node.isDistributed = true) (flat : node.isFlat = true) {s : Node}
    (hs : s ∈ node.summands) : s.wellFormed = true ∧ s.isDistributed = true ∧ s.isFlat = true ∧
      s.isCallOf "+" = false := by
  have parts := (allWellFormed_iff _).1 (allWellFormed_summands well_formed) s hs
  cases node with
  | call op args =>
    by_cases sum : op = .text "+"
    · rw [summands, if_pos sum] at hs
      subst sum
      obtain ⟨head, outside⟩ := (areFlat_iff _ args).1 flat s hs
      have all : areDistributed args = true := by
        simpa [isDistributed, isFormulaOperator] using distributed
      refine ⟨parts, (areDistributed_iff args).1 all s hs, head, ?_⟩
      cases s with
      | call inner operands => simpa [merges, isAssociative, isCallOf] using outside
      | _ => rfl
    · rw [summands, if_neg sum, List.mem_singleton] at hs
      subst hs
      exact ⟨well_formed, distributed, flat, by simp [isCallOf, sum]⟩
  | _ =>
    rw [summands, List.mem_singleton] at hs
    · subst hs
      exact ⟨well_formed, distributed, flat, rfl⟩
    · intro op args same
      cases same

/-- A sum of terms is in normal form. -/
theorem normal_sum {terms : List Node} (h : ∀ term ∈ terms, term.IsTerm) :
    (app "+" terms).wellFormed = true ∧ (app "+" terms).isDistributed = true ∧
      (app "+" terms).isFlat = true := by
  have well_formed : allWellFormed terms = true :=
    (allWellFormed_iff terms).2 fun term ht => (h term ht).wellFormed
  have distributed : areDistributed terms = true :=
    (areDistributed_iff terms).2 fun term ht => (h term ht).distributed
  refine ⟨?_, ?_, (areFlat_iff _ terms).2 fun term ht => ⟨(h term ht).flat, ?_⟩⟩
  · simp [app, wellFormed, well_formed, Plain.isName, isShortProduct]
  · simp [app, isDistributed, distributed]
  · have no_sum := (h term ht).no_sum
    cases term with
    | call inner operands => simpa [merges, isAssociative, isCallOf] using no_sum
    | _ => rfl

end Node

namespace Expansion

/-! ## Expansions of normal forms -/

/-- The expansion of a well-formed right-hand side goes through its normal form. -/
theorem ofNode_eq {right : Node} (h : right.wellFormed = true) : ∃ normal : Node,
    normal.wellFormed = true ∧ normal.isDistributed = true ∧ normal.isFlat = true ∧
      ofNode right = .ok (ofSummands normal.summands) := by
  obtain ⟨distributed, hd⟩ := Node.exists_distribute right h
  have well_formed := Node.wellFormed_distribute right distributed h hd
  refine ⟨distributed.flatten, Node.wellFormed_flatten distributed well_formed,
    Node.isDistributed_flatten distributed (Node.isDistributed_distribute right distributed hd),
    Node.isFlat_flatten distributed, ?_⟩
  unfold ofNode
  rw [(Node.validate_eq_ok_iff right).2 h, hd]
  rfl

/-- A right-hand side in normal form stands for its summands. -/
theorem ofNode_of_normal {right : Node} (well_formed : right.wellFormed = true)
    (distributed : right.isDistributed = true) (flat : right.isFlat = true) :
    ofNode right = .ok (ofSummands right.summands) := by
  unfold ofNode
  rw [(Node.validate_eq_ok_iff right).2 well_formed,
    Node.distribute_of_isDistributed right well_formed distributed]
  show Except.ok (ofSummands right.flatten.summands) = _
  rw [Node.flatten_of_isFlat right flat]

theorem exists_ofNode {right : Node} (h : right.wellFormed = true) :
    ∃ x, ofNode right = .ok x := by
  obtain ⟨normal, -, -, -, expanded⟩ := ofNode_eq h
  exact ⟨_, expanded⟩

theorem wellFormed_of_ofNode_eq_ok {right : Node} {x : Expansion} (h : ofNode right = .ok x) :
    right.wellFormed = true := by
  obtain ⟨⟨⟩, valid, -⟩ := bind_eq_ok.1 h
  exact (Node.validate_eq_ok_iff right).1 valid

/-! ## Terms -/

/-- The terms are the summands that are no markers. -/
theorem mem_terms_ofSummands {candidates : List Node} {term : Node} :
    term ∈ (ofSummands candidates).terms ↔ term ∈ candidates ∧ ¬term.IsMarker := by
  rw [Node.isMarker_iff]
  simp only [ofSummands, (List.mergeSort_perm _ _).mem_iff, List.mem_filter, Bool.not_eq_true',
    and_assoc, not_or, Bool.not_eq_true]

theorem pairwise_ofSummands (candidates : List Node) :
    (ofSummands candidates).terms.Pairwise fun s t => s.interactionOrder ≤ t.interactionOrder := by
  have sorted := @List.pairwise_mergeSort Node
    (fun s t => decide (s.interactionOrder ≤ t.interactionOrder))
    (fun a b c hab hbc => by
      simp only [decide_eq_true_eq] at hab hbc ⊢
      exact Nat.le_trans hab hbc)
    (fun a b => by
      simp only [Bool.or_eq_true, decide_eq_true_eq]
      exact Nat.le_total _ _)
    ((candidates.filter fun term => !term.isNumber 1).filter fun term => !term.removesIntercept)
  exact sorted.imp fun h => by simpa using h

/-- Terms that are no markers and stand in their order are kept as they are. -/
theorem ofSummands_eq_self {terms : List Node} (markers : ∀ term ∈ terms, ¬term.IsMarker)
    (sorted : terms.Pairwise fun s t => s.interactionOrder ≤ t.interactionOrder) :
    ofSummands terms = { terms, intercept := true } := by
  have kept : ∀ term ∈ terms, term.isNumber 1 = false ∧ term.removesIntercept = false :=
    fun term ht => by simpa [Node.isMarker_iff] using markers term ht
  have first : (terms.filter fun term => !term.isNumber 1) = terms :=
    List.filter_eq_self.2 fun term ht => by simp [(kept term ht).1]
  have second : (terms.filter fun term => !term.removesIntercept) = terms :=
    List.filter_eq_self.2 fun term ht => by simp [(kept term ht).2]
  have none_removes : terms.any Node.removesIntercept = false := by
    rw [List.any_eq_false]
    intro term ht
    simp [(kept term ht).2]
  unfold ofSummands
  simp only [first, second, none_removes, Bool.not_false]
  congr 1
  exact List.mergeSort_of_pairwise (sorted.imp fun h => by simpa using h)

/-- A zero among the summands takes the intercept away and leaves no term. -/
theorem ofSummands_zero (candidates : List Node) :
    ofSummands (.literal (.int 0) :: candidates) =
      { terms := (ofSummands candidates).terms, intercept := false } := by
  have one : Node.isNumber 1 (.literal (.int 0)) = false := by decide
  have zero : Node.removesIntercept (.literal (.int 0)) = true := by decide
  simp [ofSummands, one, zero]

/-- **The terms of an expansion are in normal form**, no sums and no markers. -/
theorem isTerm_of_ofNode {right : Node} {x : Expansion} (h : ofNode right = .ok x) :
    ∀ term ∈ x.terms, term.IsTerm := by
  intro term ht
  obtain ⟨normal, well_formed, distributed, flat, expanded⟩ :=
    ofNode_eq (wellFormed_of_ofNode_eq_ok h)
  rw [h] at expanded
  cases expanded
  obtain ⟨candidate, no_marker⟩ := mem_terms_ofSummands.1 ht
  obtain ⟨well_formed, distributed, flat, no_sum⟩ :=
    Node.normal_of_mem_summands well_formed distributed flat candidate
  exact ⟨well_formed, distributed, flat, no_sum, no_marker⟩

/-- The terms of an expansion stand in the order of their interaction orders. -/
theorem pairwise_of_ofNode {right : Node} {x : Expansion} (h : ofNode right = .ok x) :
    x.terms.Pairwise fun s t => s.interactionOrder ≤ t.interactionOrder := by
  obtain ⟨normal, -, -, -, expanded⟩ := ofNode_eq (wellFormed_of_ofNode_eq_ok h)
  rw [h] at expanded
  cases expanded
  exact pairwise_ofSummands _

/-! ## Sums of terms -/

/-- Two expansions have the same terms in the same order. -/
structure SameTerms (x y : Expansion) : Prop where
  terms : x.terms = y.terms
  orders : x.orders = y.orders

/-- What makes an expansion canonical: its terms, as one sum, have it for their expansion, and with a
zero before them they have it without the intercept. -/
structure IsCanonical (x : Expansion) : Prop where
  wellFormed : (Node.app "+" x.terms).wellFormed = true
  expand_sum : ∃ y, ofNode (.app "+" x.terms) = .ok y ∧ SameTerms y x ∧ y.intercept = true
  expand_zero : ∃ y, ofNode (.app "+" (.literal (.int 0) :: x.terms)) = .ok y ∧ SameTerms y x ∧
    y.intercept = false
  no_marker : ∀ term ∈ x.terms, ¬term.IsMarker
  no_sum : ∀ term ∈ x.terms, ∀ args, term ≠ .call (.text "+") args
  distribute : ∀ term ∈ x.terms, term.distribute = .ok term
  flatten : ∀ term ∈ x.terms, term.flatten = term

/-- **An expansion is canonical**: the sum of its terms expands to the same terms. -/
theorem canonical_of_wellFormed {right : Node} (h : right.wellFormed = true) :
    ∃ x, ofNode right = .ok x ∧ IsCanonical x := by
  obtain ⟨x, expanded⟩ := exists_ofNode h
  have terms := isTerm_of_ofNode expanded
  have self : ofSummands x.terms = { terms := x.terms, intercept := true } :=
    ofSummands_eq_self (fun term ht => (terms term ht).no_marker) (pairwise_of_ofNode expanded)
  obtain ⟨well_formed, distributed, flat⟩ := Node.normal_sum terms
  refine ⟨x, expanded, well_formed, ?_, ?_, fun term ht => (terms term ht).no_marker, ?_, ?_, ?_⟩
  · refine ⟨_, ofNode_of_normal well_formed distributed flat, ?_⟩
    have summands : (Node.app "+" x.terms).summands = x.terms := rfl
    rw [summands, self]
    exact ⟨⟨rfl, rfl⟩, rfl⟩
  · -- The zero is in normal form too, so the longer sum is its own normal form.
    have zero_sum : Node.app "+" (.literal (.int 0) :: x.terms) =
        .call (.text "+") (.literal (.int 0) :: x.terms) := rfl
    refine ⟨_, ofNode_of_normal ?_ ?_ ?_, ?_⟩
    · rw [zero_sum]
      exact well_formed
    · rw [zero_sum]
      exact distributed
    · rw [zero_sum]
      exact flat
    · have summands : (Node.app "+" (.literal (.int 0) :: x.terms)).summands =
          .literal (.int 0) :: x.terms := rfl
      rw [summands, ofSummands_zero, self]
      exact ⟨⟨rfl, rfl⟩, rfl⟩
  · rintro term ht args rfl
    have := (terms _ ht).no_sum
    simp [Node.isCallOf] at this
  · exact fun term ht =>
      Node.distribute_of_isDistributed term (terms term ht).wellFormed (terms term ht).distributed
  · exact fun term ht => Node.flatten_of_isFlat term (terms term ht).flat

/-- The right-hand side `0 + a * (b * c) + log(d * (e * f)) + -1`. -/
def nestedProducts : Node :=
  .app "+" [.literal (.int 0), .app "*" [.var "a", .app "*" [.var "b", .var "c"]],
    .app "log" [.app "*" [.var "d", .app "*" [.var "e", .var "f"]]], .app "-" [.literal (.int 1)]]

theorem canonical_of_wellFormed_nestedProducts : nestedProducts.wellFormed = true ∧
    ∃ x, ofNode nestedProducts = .ok x ∧ IsCanonical x :=
  ⟨by decide, canonical_of_wellFormed (by decide)⟩

end Expansion

end ModelFormula
