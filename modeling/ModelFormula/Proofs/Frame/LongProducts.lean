import ModelFormula.Proofs.Addends
import ModelFormula.Proofs.Frame.Contents
import ModelFormula.Proofs.Incidence
import ModelFormula.Proofs.Interactions
import ModelFormula.Proofs.Regrouping

/-!
# Products of three or more operands

The product of three operands stands for a sum that has `a & s` among its summands, where `s` is a sum
again, with `b & t` among its own.  The evaluation terms of the first interaction are the summands of
its operands, so the second one is an evaluation term itself, and it has no value.

* `Node.Adds` — what is added by an expression, at any depth of sums.
* `Node.exists_nested_interaction` — a product of three operands, whatever these are, has such an
  interaction among its addends; `Node.exists_addend` — so has every sum to which it is added.
* `TermsTable.interaction_mem_vocabulary` — an interaction is an evaluation term then.
* `ModelFrame.hasCall_of_ofTerms` — in the evaluation terms of a frame every operator is known.
* `ModelFrame.no_frame_of_longProduct` — there is no frame of such a formula.
-/

set_option autoImplicit false

namespace ModelFormula

namespace Node

/-- One expression is added by another: it is the expression itself, or below sums alone. -/
def Adds (node target : Node) : Prop := node.Reaches (fun op => decide (op = .text "+")) target

/-- An interaction among whose evaluation terms there is an interaction. -/
def NestsInteraction (term : Node) : Prop :=
  ∃ operands inner, term = app "&" operands ∧ app "&" inner ∈ term.evaluationTerms

/-- Flattened into another call, an interaction stays one operand. -/
theorem spread_sum_interaction (operands : List Node) :
    spread (.text "+") (app "&" operands).flatten = [(app "&" operands).flatten] := rfl

/-- The interaction of two operands is among the addends of their crossing. -/
theorem mem_summands_crossed (a s : Node) :
    (app "&" [a, s]).flatten ∈ (crossed a s).flatten.summands := by
  show _ ∈ spread (.text "+") a.flatten ++ (spread (.text "+") s.flatten ++
    (spread (.text "+") (app "&" [a, s]).flatten ++ []))
  rw [spread_sum_interaction]
  simp

/-- The crossing that is an operand of an interaction stays one when the interaction is flattened. -/
theorem flatten_mem_interaction (a b s : Node) :
    (crossed b s).flatten ∈ flattenInto (.text "&") [a, crossed b s] := by
  have alone : spread (.text "&") (crossed b s).flatten = [(crossed b s).flatten] := rfl
  rw [flattenInto, flattenInto, alone]
  simp

/-- **The crossing of an operand with a crossing** has an interaction among its summands that nests
another one, whatever the operands are. -/
theorem exists_nested_interaction (a b s : Node) :
    ∃ term ∈ (crossed a (crossed b s)).flatten.summands, term.NestsInteraction := by
  refine ⟨_, mem_summands_crossed a (crossed b s), flattenInto (.text "&") [a, crossed b s],
    flattenInto (.text "&") [b, s], rfl, ?_⟩
  refine List.mem_filter.2 ⟨?_, rfl⟩
  exact List.mem_flatMap.2 ⟨_, flatten_mem_interaction a b s, mem_summands_crossed b s⟩

/-- Only an interaction is the same as an interaction. -/
theorem eq_interaction_of_same {node : Node} {operands : List Node}
    (h : node.same (app "&" operands) = true) : ∃ args, node = app "&" args := by
  rw [same_iff] at h
  cases node with
  | call op args =>
    obtain ⟨op_eq, -⟩ := Node.call.inj h
    obtain rfl := (@canon_eq_iff_of_isAssociative (.text "&") rfl op).1 op_eq
    exact ⟨args, rfl⟩
  | formula left right => cases left <;> cases h
  | _ => cases h

/-- **Where a product of three operands is added, some addend nests an interaction.** -/
theorem exists_addend {node : Node} {args : List Node} (added : node.Adds (app "*" args))
    (three : 3 ≤ args.length) {parts : List Node} (addends : node.addends = .ok parts) :
    ∃ term ∈ parts, term.NestsInteraction := by
  unfold Adds at added
  generalize target : app "*" args = product at added
  induction added generalizing parts with
  | here node =>
    subst target
    obtain ⟨distributed, hd, same⟩ := bind_eq_ok.1 addends
    cases same
    rw [app, distribute_call rfl] at hd
    obtain ⟨operands, all, hd⟩ := bind_eq_ok.1 hd
    match operands, length_of_distributeAll all, hd with
    | a :: b :: c :: rest, _, hd =>
      cases hd
      exact exists_nested_interaction a b (ModelFormula.Node.product c rest)
    | [], size, _ => simp at size; omega
    | [_], size, _ => simp at size; omega
    | [_, _], size, _ => simp at size; omega
  | @inside op operands arg product sum mem _ ih =>
    obtain rfl : op = .text "+" := by simpa using sum
    have whole : (app "+" operands).addends = .ok parts := addends
    rw [addends_sum] at whole
    obtain ⟨each, all, rfl⟩ := map_eq_ok.1 whole
    obtain ⟨part, hp, addends⟩ := ModelFrame.exists_of_forall₂ (mapM_eq_ok.1 all) mem
    obtain ⟨term, ht, nests⟩ := ih addends target
    exact ⟨term, List.mem_flatten.2 ⟨part, hp, ht⟩, nests⟩

end Node

namespace TermsTable

/-- **In the table of a formula to which a product of three operands is added, an interaction is an
evaluation term.** -/
theorem interaction_mem_vocabulary {right : Node} {x : Expansion}
    (expanded : Expansion.ofNode right = .ok x) {args : List Node} (added : right.Adds (.app "*" args))
    (three : 3 ≤ args.length) {t : TermsTable} (terms : t.terms = x.terms) :
    ∃ operands, Node.app "&" operands ∈ t.vocabulary := by
  have well_formed := Expansion.wellFormed_of_ofNode_eq_ok expanded
  obtain ⟨parts, addends⟩ := Node.exists_addends well_formed
  rw [Expansion.ofNode_of_addends well_formed addends] at expanded
  cases expanded
  obtain ⟨term, ht, operands, inner, rfl, nested⟩ := Node.exists_addend added three addends
  have is_term : Node.app "&" operands ∈ t.terms :=
    terms ▸ Expansion.mem_terms_ofSummands.2 ⟨ht, Node.not_isMarker_interaction operands⟩
  have column : (Node.app "&" operands).evaluationTerms ∈ t.columns :=
    List.mem_append_right _ (List.mem_map_of_mem is_term)
  -- The vocabulary has the first node that equals the nested one, which is an interaction as well.
  obtain ⟨known, hk, same⟩ := exists_mem_vocabulary column nested
  obtain ⟨args, rfl⟩ := Node.eq_interaction_of_same same
  exact ⟨args, hk⟩

end TermsTable

namespace ModelFrame

variable {options : Options} {registry : Registry} {source : Source} {frame : ModelFrame}

/-- **In the evaluation terms of a frame every operator is known.** -/
theorem hasCall_of_ofTerms {terms : TermsTable}
    (h : (ofTerms options terms source).outcome = .ok frame)
    (by_registry : options.evaluator = .ofRegistry registry) {op : String}
    (no_arithmetic : arithmetic? (.text op) = none) (unknown : registry.find? (.text op) = none) :
    ∀ node ∈ terms.vocabulary, node.hasCall op = false := by
  obtain ⟨table, columns, -, resolved, -⟩ := ofTerms_eq_ok h
  intro node hn
  obtain ⟨c, -, -, origin, held⟩ := exists_of_forall₂ (resolveAll_eq_ok resolved) hn
  have found := held.source_eq
  cases node with
  | call f args =>
    have found : (options.evaluator (.call f args) table).outcome = .ok origin := held.source_eq
    rw [by_registry] at found
    obtain ⟨xs, column, -⟩ := map_eq_ok.1 ((Journal.outcome_map ..).symm.trans found)
    obtain ⟨v, value, -⟩ := Journal.outcome_bind_eq_ok.1 column
    exact Node.hasCall_of_evaluate no_arithmetic unknown _ v value
  | _ => rfl

/-- **A formula to which a product of three operands is added has no frame**, where no function is
known by the name of interactions: one of its evaluation terms is an interaction. -/
theorem no_frame_of_longProduct {left : Option Node} {right : Node}
    (hl : ∀ node, left = some node → node.wellFormed = true) (hr : right.wellFormed = true)
    {args : List Node} (added : right.Adds (.app "*" args)) (three : 3 ≤ args.length)
    (unknown : registry.find? (.text "&") = none)
    (by_registry : options.evaluator = .ofRegistry registry) (source : Source) :
    ∃ t e, (TermsTable.ofFormula (.formula left right)).outcome = .ok t ∧
      (∃ operands, Node.app "&" operands ∈ t.vocabulary) ∧
      (build options (.formula left right) source).outcome = .error e := by
  obtain ⟨x, expanded, built⟩ := TermsTable.build_of_wellFormed hl hr
  generalize made : TermsTable.mk left right x.terms x.intercept = t at built
  have terms : t.terms = x.terms := made ▸ rfl
  have nested := TermsTable.interaction_mem_vocabulary expanded added three terms
  have table := (TermsTable.outcome_ofFormula left right).trans built
  cases framed : (build options (.formula left right) source).outcome with
  | error e => exact ⟨t, e, table, nested, rfl⟩
  | ok frame =>
    obtain ⟨_, _, terms, same, sides, done⟩ := build_eq_ok framed
    cases same
    rw [built] at sides
    cases sides
    obtain ⟨operands, mem⟩ := nested
    have unknown_there := hasCall_of_ofTerms done by_registry rfl unknown _ mem
    cases unknown_there

/-- The right-hand side `x + (I(x) + (a + b) * (1 | g) * 0)`. -/
def hiddenProduct : Node :=
  .app "+" [.var "x", .app "+" [.app "I" [.var "x"],
    .app "*" [.app "+" [.var "a", .var "b"], .app "|" [.literal (.int 1), .var "g"],
      .literal (.int 0)]]]

/-- A table that has all columns of it. -/
def productsTable : Table where
  columns :=
    [(.text "x", .doubles [1.0, 2.0]), (.text "a", .ints [some 2, some 3]),
      (.text "b", .doubles [0.5, 4.0]), (.text "g", .doubles [1.0, 2.0])]
  index := [.int 0, .int 1]
  length_eq := by decide

theorem no_frame_of_longProduct_hiddenProduct :
    hiddenProduct.Adds (.app "*" [.app "+" [.var "a", .var "b"],
      .app "|" [.literal (.int 1), .var "g"], .literal (.int 0)]) ∧
    ∃ e, (build {} (.formula none hiddenProduct) (.table productsTable)).outcome = .error e := by
  have added : hiddenProduct.Adds (.app "*" [.app "+" [.var "a", .var "b"],
      .app "|" [.literal (.int 1), .var "g"], .literal (.int 0)]) :=
    .inside rfl (List.mem_cons_of_mem _ List.mem_cons_self)
      (.inside rfl (List.mem_cons_of_mem _ List.mem_cons_self) (.here _))
  have unknown : Registry.standard.find? (.text "&") = none := rfl
  have one_sided : ∀ node, (none : Option Node) = some node → node.wellFormed = true := by simp
  have well_formed : hiddenProduct.wellFormed = true := by decide
  have by_default : ({} : Options).evaluator = .ofRegistry .standard := rfl
  obtain ⟨t, e, -, -, failed⟩ := no_frame_of_longProduct one_sided well_formed added (Nat.le_refl 3)
    unknown by_default (.table productsTable)
  exact ⟨added, e, failed⟩

end ModelFrame

end ModelFormula
