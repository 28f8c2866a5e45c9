import ModelFormula.Proofs.Marks
import ModelFormula.Proofs.Outcome

/-!
# Terms of well-formed formulas

What the terms of a formula inherit from its sides.

* `Node.render_of_wellFormed` — a well-formed expression has a text.
* `Node.CallDistributed`, `Node.callDistributed` — what distribution makes of a call.
* `Node.wellFormed_distribute`, `Node.wellFormed_flatten` — distribution and flattening keep
  expressions well formed.
* `TermsTable.wellFormed_of_build` — every evaluation term of a formula is well formed.
* `TermsTable.responseTerm?_eq` — the evaluation term of the response is the left-hand side.
* `TermsTable.evaluationTermsAt_of_mem` — the evaluation terms of a column are those of its term.
-/

set_option autoImplicit false

namespace ModelFormula

namespace Node

theorem allWellFormed_iff (nodes : List Node) :
    allWellFormed nodes = true ↔ ∀ node ∈ nodes, node.wellFormed = true := by
  induction nodes with
  | nil => simp [allWellFormed]
  | cons node nodes ih => simp [allWellFormed, ih]

theorem allWellFormed_append (xs ys : List Node) :
    allWellFormed (xs ++ ys) = (allWellFormed xs && allWellFormed ys) := by
  induction xs with
  | nil => simp [allWellFormed]
  | cons x xs ih => simp [allWellFormed, ih, Bool.and_assoc]

/-! ## Texts -/

mutual
theorem isRenderable_of_wellFormed :
    ∀ node : Node, node.wellFormed = true → node.isRenderable = true
  | .symbol name, h => by
    cases name with
    | text s => rfl
    | _ => cases h
  | .literal _, _ => rfl
  | .call op args, h => by
    simp only [wellFormed, Bool.and_eq_true] at h
    have named : op.hashable = true := by
      cases op with
      | text s => rfl
      | _ => cases h.1.1
    simp [isRenderable, named, areRenderable_of_wellFormed args h.2]
  | .formula _ _, h => by cases h
  | .plain _, _ => rfl
theorem areRenderable_of_wellFormed :
    ∀ nodes : List Node, allWellFormed nodes = true → areRenderable nodes = true
  | [], _ => rfl
  | node :: nodes, h => by
    simp only [allWellFormed, Bool.and_eq_true] at h
    simp [areRenderable, isRenderable_of_wellFormed node h.1, areRenderable_of_wellFormed nodes h.2]
end

theorem render_of_wellFormed {node : Node} (h : node.wellFormed = true) :
    node.render = .ok node.text := by
  unfold render
  rw [if_pos (isRenderable_of_wellFormed node h)]

/-! ## Distribution -/

/-- What distribution makes of a call. -/
inductive CallDistributed (op : Plain) (args : List Node) : Node → Prop where
  /-- Below an operator that has no meaning in formulas nothing is replaced. -/
  | kept (foreign : isFormulaOperator op = false) : CallDistributed op args (.call op args)
  | mapped {operands : List Node} (formula : isFormulaOperator op = true) (other : op ≠ .text "*")
      (all : distributeAll args = .ok operands) : CallDistributed op args (.call op operands)
  | replaced {first second : Node} {rest : List Node} (times : op = .text "*")
      (all : distributeAll args = .ok (first :: second :: rest)) :
      CallDistributed op args (product first (second :: rest))

theorem callDistributed {op : Plain} {args : List Node} {result : Node}
    (h : (Node.call op args).distribute = .ok result) : CallDistributed op args result := by
  unfold distribute at h
  split at h
  · cases h
  · split at h
    · rename_i formula
      split at h
      · cases h
      · rename_i operands all
        split at h
        · rename_i times
          split at h
          · cases h
            exact .replaced times all
          · cases h
        · rename_i other
          cases h
          exact .mapped formula other all
    · rename_i foreign
      cases h
      exact .kept (by simpa using foreign)

theorem distributeAll_cons_eq_ok {arg : Node} {args results : List Node}
    (h : distributeAll (arg :: args) = .ok results) : ∃ first rest,
      arg.distribute = .ok first ∧ distributeAll args = .ok rest ∧ results = first :: rest := by
  unfold distributeAll at h
  split at h
  · cases h
  · rename_i first head
    split at h
    · cases h
    · rename_i rest tail
      cases h
      exact ⟨first, rest, head, tail, rfl⟩

theorem wellFormed_crossed {a s : Node} (ha : a.wellFormed = true) (hs : s.wellFormed = true) :
    (crossed a s).wellFormed = true := by
  simp [crossed, app, wellFormed, allWellFormed, ha, hs, Plain.isName, isShortProduct]

theorem wellFormed_product {first : Node} {rest : List Node} (h : first.wellFormed = true)
    (hs : allWellFormed rest = true) : (product first rest).wellFormed = true := by
  induction rest generalizing first with
  | nil => exact h
  | cons second rest ih =>
    simp only [allWellFormed, Bool.and_eq_true] at hs
    exact wellFormed_crossed h (ih hs.1 hs.2)

mutual
/-- Distribution keeps expressions well formed. -/
theorem wellFormed_distribute : ∀ node result : Node, node.wellFormed = true →
    node.distribute = .ok result → result.wellFormed = true
  | .call op args, result, h, hr => by
    have parts := h
    simp only [wellFormed, Bool.and_eq_true] at parts
    cases callDistributed hr with
    | kept foreign => exact h
    | mapped formula other all =>
      have operands := allWellFormed_distributeAll args _ parts.2 all
      simp [wellFormed, parts.1.1, operands, isShortProduct, other]
    | replaced times all =>
      have operands := allWellFormed_distributeAll args _ parts.2 all
      simp only [allWellFormed, Bool.and_eq_true] at operands
      exact wellFormed_product operands.1 (by simp [allWellFormed, operands.2])
  | .symbol _, _, h, hr => by cases hr; exact h
  | .literal _, _, h, hr => by cases hr; exact h
  | .formula _ _, _, h, _ => by cases h
  | .plain _, _, h, _ => by cases h
theorem allWellFormed_distributeAll : ∀ args results : List Node, allWellFormed args = true →
    distributeAll args = .ok results → allWellFormed results = true
  | [], _, _, hr => by cases hr; rfl
  | arg :: args, results, h, hr => by
    simp only [allWellFormed, Bool.and_eq_true] at h
    obtain ⟨first, rest, head, tail, rfl⟩ := distributeAll_cons_eq_ok hr
    simp [allWellFormed, wellFormed_distribute arg first h.1 head,
      allWellFormed_distributeAll args rest h.2 tail]
end

/-! ## Flattening -/

/-- What a well-formed operand contributes is well formed, and to a product it contributes
something. -/
theorem wellFormed_spread (op : Plain) {node : Node} (h : node.wellFormed = true) :
    allWellFormed (spread op node) = true ∧ (op = .text "*" → 1 ≤ (spread op node).length) := by
  have single : allWellFormed [node] = true := by simp [allWellFormed, h]
  cases node with
  | call inner args =>
    have parts := h
    simp only [wellFormed, Bool.and_eq_true] at parts
    by_cases same : (isAssociative op && decide (inner = op)) = true
    · rw [spread, if_pos same]
      simp only [Bool.and_eq_true, decide_eq_true_eq] at same
      refine ⟨parts.2, fun product => ?_⟩
      have long : ¬args.length < 2 := by
        simpa [isShortProduct, same.2, product] using parts.1.2
      omega
    · rw [spread, if_neg same]
      exact ⟨single, fun _ => Nat.le_refl 1⟩
  | _ => exact ⟨single, fun _ => Nat.le_refl 1⟩

mutual
/-- Flattening keeps expressions well formed. -/
theorem wellFormed_flatten :
    ∀ node : Node, node.wellFormed = true → node.flatten.wellFormed = true
  | .call op args, h => by
    simp only [wellFormed, Bool.and_eq_true] at h
    obtain ⟨all, size⟩ := wellFormed_flattenInto op args h.2
    -- Only of a product does flattening have to keep two operands.
    have long : isShortProduct op (flattenInto op args) = false := by
      by_cases product : op = .text "*"
      · have enough : ¬args.length < 2 := by simpa [isShortProduct, product] using h.1.2
        have := size product
        simp only [isShortProduct, Bool.and_eq_false_iff, decide_eq_false_iff_not]
        omega
      · simp [isShortProduct, product]
    simp [flatten, wellFormed, h.1.1, long, all]
  | .symbol _, h => h
  | .literal _, h => h
  | .formula _ _, h => by cases h
  | .plain _, h => by cases h
theorem wellFormed_flattenInto (op : Plain) : ∀ args : List Node, allWellFormed args = true →
    allWellFormed (flattenInto op args) = true ∧
      (op = .text "*" → args.length ≤ (flattenInto op args).length)
  | [], _ => ⟨rfl, fun _ => Nat.le_refl 0⟩
  | arg :: args, h => by
    simp only [allWellFormed, Bool.and_eq_true] at h
    obtain ⟨head, one⟩ := wellFormed_spread op (wellFormed_flatten arg h.1)
    obtain ⟨tail, many⟩ := wellFormed_flattenInto op args h.2
    refine ⟨by rw [flattenInto, allWellFormed_append, head, tail]; rfl, fun product => ?_⟩
    rw [flattenInto, List.length_append, List.length_cons]
    have := one product
    have := many product
    omega
end

/-! ## Terms -/

theorem allWellFormed_summands {node : Node} (h : node.wellFormed = true) :
    allWellFormed node.summands = true := by
  have single : allWellFormed [node] = true := by simp [allWellFormed, h]
  cases node with
  | call op args =>
    simp only [wellFormed, Bool.and_eq_true] at h
    by_cases sum : op = .text "+"
    · rw [summands, if_pos sum]
      exact h.2
    · rw [summands, if_neg sum]
      exact single
  | _ => exact single

theorem wellFormed_evaluationTerms {node e : Node} (h : node.wellFormed = true)
    (he : e ∈ node.evaluationTerms) : e.wellFormed = true := by
  cases node with
  | call op args =>
    by_cases compound : isCompound op = true
    · rw [evaluationTerms, if_pos compound] at he
      obtain ⟨arg, harg, he⟩ := List.mem_flatMap.1 (List.mem_filter.1 he).1
      simp only [wellFormed, Bool.and_eq_true] at h
      have := (allWellFormed_iff args).1 h.2 arg harg
      exact (allWellFormed_iff _).1 (allWellFormed_summands this) e he
    · rw [evaluationTerms, if_neg compound] at he
      rw [List.mem_singleton.1 he]
      exact h
  | _ => rw [List.mem_singleton.1 he]; exact h

end Node

/-- The terms of a right-hand side are well formed. -/
theorem Expansion.wellFormed_of_ofNode {right : Node} {x : Expansion}
    (h : Expansion.ofNode right = .ok x) : ∀ term ∈ x.terms, term.wellFormed = true := by
  obtain ⟨⟨⟩, valid, h⟩ := bind_eq_ok.1 h
  obtain ⟨distributed, hd, h⟩ := bind_eq_ok.1 h
  cases h
  have right_wf := (Node.validate_eq_ok_iff right).1 valid
  have all := Node.allWellFormed_summands
    (Node.wellFormed_flatten _ (Node.wellFormed_distribute right distributed right_wf hd))
  intro term hterm
  have candidate := (List.mergeSort_perm _ _).mem_iff.1 hterm
  exact (Node.allWellFormed_iff _).1 all term
    (List.mem_filter.1 (List.mem_filter.1 candidate).1).1

namespace TermsTable

/-! ## Tables -/

/-- The evaluation terms of the columns of a table. -/
theorem mem_vocabulary {t : TermsTable} {node : Node} (h : node ∈ t.vocabulary) :
    t.left = some node ∨ ∃ term ∈ t.terms, node ∈ term.evaluationTerms := by
  obtain ⟨column, hc, hn⟩ := List.mem_flatten.1 ((firsts_sublist _ _).subset h)
  rcases List.mem_append.1 hc with hc | hc
  · obtain ⟨left, hl, rfl⟩ := List.mem_map.1 hc
    rw [List.mem_singleton.1 hn]
    exact Or.inl (by simpa using hl)
  · obtain ⟨term, ht, rfl⟩ := List.mem_map.1 hc
    exact Or.inr ⟨term, ht, hn⟩

/-- What building a table does. -/
theorem build_eq_ok {left : Option Node} {right : Node} {t : TermsTable}
    (h : build left right = .ok t) : t.left = left ∧ t.right = right ∧
      (∀ node, left = some node → node.wellFormed = true) ∧
      ∀ term ∈ t.terms, term.wellFormed = true := by
  obtain ⟨expansion, hx, h⟩ := bind_eq_ok.1 h
  have terms := Expansion.wellFormed_of_ofNode hx
  cases left with
  | none =>
    cases h
    exact ⟨rfl, rfl, fun node same => (by cases same), terms⟩
  | some left =>
    obtain ⟨⟨⟩, valid, h⟩ := bind_eq_ok.1 h
    cases h
    refine ⟨rfl, rfl, fun node same => ?_, terms⟩
    cases same
    exact (Node.validate_eq_ok_iff left).1 valid

/-- The table of a formula is that of its sides. -/
theorem ofFormula_eq_ok {formula : Node} {t : TermsTable} (h : (ofFormula formula).outcome = .ok t) :
    ∃ left right, formula = .formula left right ∧ build left right = .ok t := by
  unfold ofFormula at h
  split at h
  · rename_i left right
    obtain ⟨built, sides, h⟩ := Journal.outcome_bind_eq_ok.1 h
    obtain ⟨⟨⟩, -, h⟩ := Journal.outcome_bind_eq_ok.1 h
    cases h
    exact ⟨left, right, rfl, sides⟩
  · cases h

/-- **Every evaluation term of a formula is well formed.** -/
theorem wellFormed_of_build {left : Option Node} {right : Node} {t : TermsTable}
    (h : build left right = .ok t) : ∀ node ∈ t.vocabulary, node.wellFormed = true := by
  obtain ⟨hl, -, left_wf, terms_wf⟩ := build_eq_ok h
  intro node hn
  rcases mem_vocabulary hn with hn | ⟨term, ht, hn⟩
  · exact left_wf node (hl ▸ hn)
  · exact Node.wellFormed_evaluationTerms (terms_wf term ht) hn

/-- The evaluation term of the response is the left-hand side. -/
theorem responseTerm?_eq (t : TermsTable) : t.responseTerm? = t.left := by
  unfold responseTerm? hasResponse vocabulary columns
  cases t.left <;> simp [firsts]

/-- The left-hand side is an evaluation term. -/
theorem left_mem_vocabulary {t : TermsTable} {node : Node} (h : t.left = some node) :
    node ∈ t.vocabulary := by
  unfold vocabulary columns
  rw [h]
  exact List.mem_cons_self

/-- The columns of the terms come after the one of the response. -/
theorem columns_termColumn (t : TermsTable) (i : Nat) :
    t.columns[t.termColumn i]? = (t.terms[i]?).map Node.evaluationTerms := by
  unfold columns termColumn hasResponse
  cases t.left <;> simp

/-- The evaluation terms of a term, each once and in the order of the vocabulary. -/
def distinctTerms (t : TermsTable) (term : Node) : List Node :=
  t.vocabulary.filter fun node => node.isIn term.evaluationTerms

/-- The terms that are not groupings, in their order. -/
def fixedEffects (t : TermsTable) : List Node := t.terms.filter Node.isFixedEffect

theorem mem_fixedTerms {t : TermsTable} {column : Nat} {term : Node} :
    (column, term) ∈ t.fixedTerms ↔
      ∃ k, t.terms[k]? = some term ∧ term.isFixedEffect = true ∧ column = t.termColumn k := by
  unfold fixedTerms
  constructor
  · intro h
    obtain ⟨⟨term', k⟩, hp, same⟩ := List.mem_map.1 h
    cases same
    obtain ⟨hk, effect⟩ := List.mem_filter.1 hp
    exact ⟨k, List.mk_mem_zipIdx_iff_getElem?.1 hk, effect, rfl⟩
  · rintro ⟨k, hk, effect, rfl⟩
    refine List.mem_map.2 ⟨(term, k), List.mem_filter.2 ⟨?_, effect⟩, rfl⟩
    exact List.mk_mem_zipIdx_iff_getElem?.2 hk

theorem evaluationTermsAt_termColumn {t : TermsTable} {k : Nat} {term : Node}
    (h : t.terms[k]? = some term) :
    t.evaluationTermsAt (t.termColumn k) = t.distinctTerms term := by
  rw [evaluationTermsAt_eq, distinctTerms, List.getD_eq_getElem?_getD, columns_termColumn, h]
  rfl

/-- The evaluation terms of the column of a term. -/
theorem evaluationTermsAt_of_mem {t : TermsTable} {column : Nat} {term : Node}
    (h : (column, term) ∈ t.fixedTerms) : t.evaluationTermsAt column = t.distinctTerms term := by
  obtain ⟨k, hk, -, rfl⟩ := mem_fixedTerms.1 h
  exact evaluationTermsAt_termColumn hk

theorem fixedTerms_map_snd (t : TermsTable) : t.fixedTerms.map Prod.snd = t.fixedEffects := by
  unfold fixedTerms fixedEffects
  rw [List.map_map]
  have split : (Prod.snd ∘ fun p : Node × Nat => (t.termColumn p.2, p.1)) = Prod.fst := rfl
  have keeps : (fun p : Node × Nat => p.1.isFixedEffect) = Node.isFixedEffect ∘ Prod.fst := rfl
  rw [split, keeps, ← List.filter_map, List.zipIdx_map_fst]

end TermsTable

end ModelFormula
