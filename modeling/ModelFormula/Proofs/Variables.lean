import ModelFormula.Node.Variables
import ModelFormula.Proofs.Incidence

/-!
# Variables of formulas

The symbols of a formula are those of its evaluation terms: expansion into terms takes apart and
reorders, but it drops literals only.

* `Node.symbols` — all symbols of an expression, from left to right.
* `Node.vars_formula` — the variables of a formula are the first occurrences of its symbols;
  `Node.exists_vars_formula` — each stands once, where it occurs first.
* `Node.mem_symbols_distribute`, `Node.symbols_flatten`, `Node.mem_symbolsOf_evaluationTerms` —
  distribution, flattening and the choice of evaluation terms keep the symbols;
  `Expansion.mem_symbolsOf_terms` — so does expansion.
* `TermsTable.mem_symbols_vocabulary_iff` — the symbols of the vocabulary are those of the formula.
-/

set_option autoImplicit false

namespace ModelFormula

theorem Plain.same_iff (x y : Plain) : x.same y = true ↔ x.canon = y.canon := by simp [Plain.same]

/-- A name equals itself only. -/
theorem Plain.same_of_isName {x y : Plain} (hx : x.isName = true) (hy : y.isName = true) :
    x.same y = decide (x = y) := by
  cases x with
  | text s =>
    cases y with
    | text t => rfl
    | _ => cases hy
  | _ => cases hx

/-- A name stands for itself only. -/
theorem Plain.canon_of_isName {x : Plain} (h : x.isName = true) : x.canon = x := by
  cases x with
  | text s => rfl
  | _ => cases h

/-- Names that are added piece by piece are the first occurrences in all pieces. -/
theorem addNew_firsts (found xs : List Plain) :
    addNew Plain.same (firsts Plain.same found) (firsts Plain.same xs) =
      firsts Plain.same (found ++ xs) := by
  have refl : ∀ x : Plain, x.same x = true := fun x => (Plain.same_iff x x).2 rfl
  have symm : ∀ x y : Plain, x.same y = true → y.same x = true := by
    intro x y h
    rw [Plain.same_iff] at *
    exact h.symm
  have trans : ∀ x y z : Plain, x.same y = true → y.same z = true → x.same z = true := by
    intro x y z xy yz
    rw [Plain.same_iff] at *
    exact xy.trans yz
  simp only [← addNew_nil symm trans]
  rw [addNew_addNew refl trans, addNew_append]
  rfl

namespace Node

/-! ## Symbols -/

mutual
/-- The names of all symbols of an expression, from left to right; a formula's right-hand side comes
before its left-hand side. -/
def symbols : Node → List Plain
  | .symbol name => [name]
  | .literal _ => []
  | .call _ args => symbolsOf args
  | .formula none right => right.symbols
  | .formula (some left) right => right.symbols ++ left.symbols
  | .plain _ => []
def symbolsOf : List Node → List Plain
  | [] => []
  | arg :: args => arg.symbols ++ symbolsOf args
end

theorem mem_symbolsOf_iff {name : Plain} {nodes : List Node} :
    name ∈ symbolsOf nodes ↔ ∃ node ∈ nodes, name ∈ node.symbols := by
  induction nodes with
  | nil => simp [symbolsOf]
  | cons node nodes ih => simp [symbolsOf, ih]

theorem symbolsOf_append (xs ys : List Node) :
    symbolsOf (xs ++ ys) = symbolsOf xs ++ symbolsOf ys := by
  induction xs with
  | nil => rfl
  | cons x xs ih => simp [symbolsOf, ih]

mutual
/-- The symbols of a well-formed expression have names. -/
theorem isName_of_mem_symbols : ∀ node : Node, node.wellFormed = true →
    ∀ name ∈ node.symbols, name.isName = true
  | .symbol name, h => by
    intro other ho
    rw [List.mem_singleton.1 ho]
    exact h
  | .literal _, _ => by simp [symbols]
  | .call op args, h => by
    simp only [wellFormed, Bool.and_eq_true] at h
    exact isName_of_mem_symbolsOf args h.2
  | .formula _ _, h => by cases h
  | .plain _, h => by cases h
theorem isName_of_mem_symbolsOf : ∀ nodes : List Node, allWellFormed nodes = true →
    ∀ name ∈ symbolsOf nodes, name.isName = true
  | [], _ => by simp [symbolsOf]
  | node :: nodes, h => by
    simp only [allWellFormed, Bool.and_eq_true] at h
    intro name hn
    rcases List.mem_append.1 hn with hn | hn
    · exact isName_of_mem_symbols node h.1 name hn
    · exact isName_of_mem_symbolsOf nodes h.2 name hn
end

mutual
/-- The representative of a node has the representatives of its symbols. -/
theorem symbols_canon : ∀ node : Node, node.canon.symbols = node.symbols.map Plain.canon
  | .symbol _ => rfl
  | .literal _ => rfl
  | .call _ args => symbolsOf_canonList args
  | .formula none right => symbols_canon right
  | .formula (some left) right => by
    simp only [canon, symbols, List.map_append, symbols_canon left, symbols_canon right]
  | .plain _ => rfl
theorem symbolsOf_canonList : ∀ nodes : List Node,
    symbolsOf (canonList nodes) = (symbolsOf nodes).map Plain.canon
  | [] => rfl
  | node :: nodes => by
    simp only [canonList, symbolsOf, List.map_append, symbols_canon node,
      symbolsOf_canonList nodes]
end

/-- Equal expressions have the same symbols. -/
theorem symbols_of_same {x y : Node} (hx : x.wellFormed = true) (hy : y.wellFormed = true)
    (h : x.same y = true) : x.symbols = y.symbols := by
  have names : ∀ node : Node, node.wellFormed = true → node.canon.symbols = node.symbols := by
    intro node well_formed
    have fixed : ∀ name ∈ node.symbols, name.canon = id name := by
      intro name hn
      exact Plain.canon_of_isName (isName_of_mem_symbols node well_formed name hn)
    rw [symbols_canon, List.map_congr_left fixed, List.map_id]
  rw [← names x hx, ← names y hy, (same_iff x y).1 h]

/-! ## Variables -/

mutual
/-- The variables of a well-formed expression are the first occurrences of its symbols. -/
theorem vars_of_wellFormed : ∀ node : Node, node.wellFormed = true →
    node.vars = .ok (firsts Plain.same node.symbols)
  | .symbol name, _ => rfl
  | .literal _, _ => rfl
  | .call op args, h => by
    simp only [wellFormed, Bool.and_eq_true] at h
    exact varsInto_of_wellFormed [] args h.2
  | .formula _ _, h => by cases h
  | .plain _, h => by cases h
theorem varsInto_of_wellFormed (found : List Plain) : ∀ nodes : List Node,
    allWellFormed nodes = true → varsInto (firsts Plain.same found) nodes =
      .ok (firsts Plain.same (found ++ symbolsOf nodes))
  | [], _ => by simp [varsInto, symbolsOf]
  | node :: nodes, h => by
    simp only [allWellFormed, Bool.and_eq_true] at h
    unfold varsInto
    rw [vars_of_wellFormed node h.1]
    show varsInto (addNew Plain.same _ _) nodes = _
    rw [addNew_firsts, varsInto_of_wellFormed (found ++ node.symbols) nodes h.2, symbolsOf,
      List.append_assoc]
end

/-- **The variables of a formula** are the first occurrences of its symbols. -/
theorem vars_formula {left : Option Node} {right : Node}
    (hl : ∀ node, left = some node → node.wellFormed = true) (hr : right.wellFormed = true) :
    (Node.formula left right).vars = .ok (firsts Plain.same (Node.formula left right).symbols) := by
  cases left with
  | none => exact vars_of_wellFormed right hr
  | some node =>
    unfold vars
    rw [vars_of_wellFormed right hr, vars_of_wellFormed node (hl node rfl)]
    exact congrArg Except.ok (addNew_firsts right.symbols node.symbols)

theorem isName_of_mem_symbols_formula {left : Option Node} {right : Node}
    (hl : ∀ node, left = some node → node.wellFormed = true) (hr : right.wellFormed = true) :
    ∀ name ∈ (Node.formula left right).symbols, name.isName = true := by
  intro name hn
  cases left with
  | none => exact isName_of_mem_symbols right hr name hn
  | some node =>
    rcases List.mem_append.1 hn with hn | hn
    · exact isName_of_mem_symbols right hr name hn
    · exact isName_of_mem_symbols node (hl node rfl) name hn

/-- They are listed once each, where they occur first. -/
theorem exists_vars_formula {left : Option Node} {right : Node}
    (hl : ∀ node, left = some node → node.wellFormed = true) (hr : right.wellFormed = true) :
    ∃ names, (Node.formula left right).vars = .ok names ∧
      AreFirsts (fun a b => decide (a = b)) (Node.formula left right).symbols names ∧
      names.Nodup ∧ ∀ name, name ∈ names ↔ name ∈ (Node.formula left right).symbols := by
  have are_names := isName_of_mem_symbols_formula hl hr
  have equality : firsts Plain.same (Node.formula left right).symbols =
      firsts (fun a b => decide (a = b)) (Node.formula left right).symbols := by
    apply firsts_congr
    intro x hx y hy
    exact Plain.same_of_isName (are_names x hx) (are_names y hy)
  refine ⟨_, vars_formula hl hr, ?_⟩
  rw [equality]
  refine ⟨areFirsts_firsts _ _, (firsts_pairwise _ _).imp of_decide_eq_false, fun name => ?_⟩
  constructor
  · exact fun hn => (firsts_sublist _ _).subset hn
  · intro hn
    have refl : ∀ x : Plain, decide (x = x) = true := fun x => decide_eq_true rfl
    have trans : ∀ x y z : Plain, decide (x = y) = true → decide (y = z) = true →
        decide (x = z) = true := by
      intro x y z xy yz
      exact decide_eq_true ((of_decide_eq_true xy).trans (of_decide_eq_true yz))
    obtain ⟨other, mem, same⟩ := exists_mem_firsts refl trans hn
    rw [← of_decide_eq_true same]
    exact mem

/-! ## Distribution -/

theorem mem_symbols_crossed {name : Plain} (a s : Node) :
    name ∈ (crossed a s).symbols ↔ name ∈ a.symbols ∨ name ∈ s.symbols := by
  simp only [crossed, app, symbols, symbolsOf, List.mem_append, List.not_mem_nil, or_false]
  constructor
  · rintro (ha | hs | ha | hs)
    · exact Or.inl ha
    · exact Or.inr hs
    · exact Or.inl ha
    · exact Or.inr hs
  · rintro (ha | hs)
    · exact Or.inl ha
    · exact Or.inr (Or.inl hs)

theorem mem_symbols_product {name : Plain} (first : Node) (rest : List Node) :
    name ∈ (product first rest).symbols ↔ name ∈ symbolsOf (first :: rest) := by
  induction rest generalizing first with
  | nil => simp [product, symbolsOf]
  | cons second rest ih =>
    have unfolded : product first (second :: rest) = crossed first (product second rest) := rfl
    simp only [unfolded, mem_symbols_crossed, ih, symbolsOf, List.mem_append]

mutual
/-- Distribution neither loses nor invents a symbol. -/
theorem mem_symbols_distribute (name : Plain) : ∀ node result : Node,
    node.distribute = .ok result → (name ∈ result.symbols ↔ name ∈ node.symbols)
  | .call op args, result, h => by
    cases callDistributed h with
    | kept foreign => rfl
    | mapped formula other all => exact mem_symbolsOf_distributeAll name args _ all
    | replaced times all =>
      rw [mem_symbols_product]
      exact mem_symbolsOf_distributeAll name args _ all
  | .symbol _, _, h => by cases h; rfl
  | .literal _, _, h => by cases h; rfl
  | .formula _ _, _, h => by cases h; rfl
  | .plain _, _, h => by cases h; rfl
theorem mem_symbolsOf_distributeAll (name : Plain) : ∀ args results : List Node,
    distributeAll args = .ok results → (name ∈ symbolsOf results ↔ name ∈ symbolsOf args)
  | [], _, h => by cases h; rfl
  | arg :: args, results, h => by
    obtain ⟨first, rest, head, tail, rfl⟩ := distributeAll_cons_eq_ok h
    simp only [symbolsOf, List.mem_append, mem_symbols_distribute name arg first head,
      mem_symbolsOf_distributeAll name args rest tail]
end

/-! ## Flattening -/

theorem symbolsOf_spread (op : Plain) (node : Node) : symbolsOf (spread op node) = node.symbols := by
  cases node with
  | call inner args =>
    by_cases merged : (isAssociative op && decide (inner = op)) = true
    · rw [spread, if_pos merged]
      rfl
    · rw [spread, if_neg merged]
      exact List.append_nil _
  | _ => exact List.append_nil _

mutual
/-- Flattening keeps the symbols in their places. -/
theorem symbols_flatten : ∀ node : Node, node.flatten.symbols = node.symbols
  | .call op args => symbolsOf_flattenInto op args
  | .symbol _ => rfl
  | .literal _ => rfl
  | .formula _ _ => rfl
  | .plain _ => rfl
theorem symbolsOf_flattenInto (op : Plain) : ∀ args : List Node,
    symbolsOf (flattenInto op args) = symbolsOf args
  | [] => rfl
  | arg :: args => by
    rw [flattenInto, symbolsOf_append, symbolsOf_spread, symbols_flatten arg,
      symbolsOf_flattenInto op args, symbolsOf]
end

/-! ## Summands and evaluation terms -/

theorem symbolsOf_summands (node : Node) : symbolsOf node.summands = node.symbols := by
  cases node with
  | call op args =>
    by_cases sum : op = .text "+"
    · rw [summands, if_pos sum]
      rfl
    · rw [summands, if_neg sum]
      exact List.append_nil _
  | _ => exact List.append_nil _

theorem symbols_of_isLiteral {node : Node} (h : node.isLiteral = true) : node.symbols = [] := by
  cases node with
  | literal value => rfl
  | _ => cases h

/-- What is taken out as a marker has no symbols. -/
theorem symbols_of_isMarker {node : Node} (h : node.IsMarker) : node.symbols = [] := by
  cases h <;> rfl

/-- The evaluation terms of a term have its symbols; only literals are left out. -/
theorem mem_symbolsOf_evaluationTerms {name : Plain} (term : Node) :
    name ∈ symbolsOf term.evaluationTerms ↔ name ∈ term.symbols := by
  cases term with
  | call op args =>
    by_cases compound : isCompound op = true
    · rw [evaluationTerms, if_pos compound]
      have operands : name ∈ symbolsOf args ↔ name ∈ symbolsOf (args.flatMap summands) := by
        induction args with
        | nil => rfl
        | cons arg args ih =>
          rw [List.flatMap_cons, symbolsOf_append, symbolsOf_summands, symbolsOf, List.mem_append,
            List.mem_append, ih]
      show _ ↔ name ∈ symbolsOf args
      rw [operands, mem_symbolsOf_iff, mem_symbolsOf_iff]
      constructor
      · rintro ⟨node, hn, here⟩
        exact ⟨node, (List.mem_filter.1 hn).1, here⟩
      · rintro ⟨node, hn, here⟩
        refine ⟨node, List.mem_filter.2 ⟨hn, ?_⟩, here⟩
        cases literal : node.isLiteral with
        | false => rfl
        | true =>
          rw [symbols_of_isLiteral literal] at here
          cases here
    · rw [evaluationTerms, if_neg compound]
      simp [symbolsOf]
  | _ => simp [evaluationTerms, symbolsOf]

end Node

/-! ## Terms -/

/-- **Expansion neither loses nor invents a symbol.** -/
theorem Expansion.mem_symbolsOf_terms {right : Node} {x : Expansion} (h : ofNode right = .ok x)
    (name : Plain) : name ∈ Node.symbolsOf x.terms ↔ name ∈ right.symbols := by
  obtain ⟨⟨⟩, -, h⟩ := bind_eq_ok.1 h
  obtain ⟨distributed, hd, h⟩ := bind_eq_ok.1 h
  cases h
  rw [← Node.mem_symbols_distribute name right distributed hd, ← Node.symbols_flatten,
    ← Node.symbolsOf_summands, Node.mem_symbolsOf_iff, Node.mem_symbolsOf_iff]
  constructor
  · rintro ⟨term, ht, here⟩
    exact ⟨term, (mem_terms_ofSummands.1 ht).1, here⟩
  · rintro ⟨term, ht, here⟩
    refine ⟨term, mem_terms_ofSummands.2 ⟨ht, ?_⟩, here⟩
    intro marker
    rw [Node.symbols_of_isMarker marker] at here
    cases here

namespace TermsTable

/-- The symbols of the vocabulary are those of the left-hand side and of the terms. -/
theorem exists_mem_vocabulary_iff {t : TermsTable}
    (hl : ∀ node, t.left = some node → node.wellFormed = true)
    (ht : ∀ term ∈ t.terms, term.wellFormed = true) (name : Plain) :
    (∃ node ∈ t.vocabulary, name ∈ node.symbols) ↔
      (∃ node, t.left = some node ∧ name ∈ node.symbols) ∨ name ∈ Node.symbolsOf t.terms := by
  constructor
  · rintro ⟨node, hn, here⟩
    rcases mem_vocabulary hn with left | ⟨term, mem, he⟩
    · exact Or.inl ⟨node, left, here⟩
    · have in_term := (Node.mem_symbolsOf_evaluationTerms term).1
        (Node.mem_symbolsOf_iff.2 ⟨node, he, here⟩)
      exact Or.inr (Node.mem_symbolsOf_iff.2 ⟨term, mem, in_term⟩)
  · rintro (⟨node, left, here⟩ | here)
    · exact ⟨node, left_mem_vocabulary left, here⟩
    · obtain ⟨term, mem, here⟩ := Node.mem_symbolsOf_iff.1 here
      obtain ⟨node, he, here⟩ := Node.mem_symbolsOf_iff.1
        ((Node.mem_symbolsOf_evaluationTerms term).2 here)
      -- In the vocabulary an equal one may stand for it, which has the same symbols.
      have column : term.evaluationTerms ∈ t.columns :=
        List.mem_append_right _ (List.mem_map_of_mem mem)
      obtain ⟨known, hk, same⟩ := exists_mem_vocabulary column he
      have node_wf := Node.wellFormed_evaluationTerms (ht term mem) he
      have known_wf : known.wellFormed = true := by
        rcases mem_vocabulary hk with left | ⟨other, mem', he'⟩
        · exact hl known left
        · exact Node.wellFormed_evaluationTerms (ht other mem') he'
      refine ⟨known, hk, ?_⟩
      rw [Node.symbols_of_same known_wf node_wf same]
      exact here

/-- **The symbols of the vocabulary are those of the formula.** -/
theorem mem_symbols_vocabulary_iff {left : Option Node} {right : Node} {t : TermsTable}
    (h : build left right = .ok t) (name : Plain) :
    (∃ node ∈ t.vocabulary, name ∈ node.symbols) ↔ name ∈ (Node.formula left right).symbols := by
  obtain ⟨left_eq, -, left_wf, terms_wf⟩ := build_eq_ok h
  obtain ⟨x, expanded, terms_eq⟩ : ∃ x, Expansion.ofNode right = .ok x ∧ t.terms = x.terms := by
    obtain ⟨x, expanded, h⟩ := bind_eq_ok.1 h
    refine ⟨x, expanded, ?_⟩
    cases left with
    | none =>
      cases h
      rfl
    | some node =>
      obtain ⟨⟨⟩, -, h⟩ := bind_eq_ok.1 h
      cases h
      rfl
  rw [exists_mem_vocabulary_iff (fun node hn => left_wf node (left_eq ▸ hn)) terms_wf, left_eq,
    terms_eq, Expansion.mem_symbolsOf_terms expanded]
  cases left with
  | none => simp [Node.symbols]
  | some node =>
    simp only [Option.some.injEq, exists_eq_left', Node.symbols, List.mem_append]
    exact or_comm

end TermsTable

end ModelFormula
