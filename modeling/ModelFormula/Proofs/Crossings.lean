import ModelFormula.Proofs.Addends

/-!
# Crossings

What the product of `k` symbols is expanded to: the symbols themselves, and `k - 1` interactions, each
of one symbol with all that the later ones come to.

* `Node.crossing`, `Node.interactions` — the terms of a product, from the last symbol to the first.
* `Node.crossing_eq_append` — the symbols come before the interactions.
* `Node.WritesProduct` — the ways to group the operands of a product to the right.
* `Node.distribute_of_writesProduct` — they are all distributed to the same right fold.
* `Node.flatten_product` — which is flattened to the terms together.
* `Expansion.crossing_of_product` — the expansion of a product of symbols.
-/

set_option autoImplicit false

namespace ModelFormula

namespace Node

/-- One node by itself, or the sum of several. -/
def together : List Node → Node
  | [node] => node
  | nodes => app "+" nodes

/-- The terms of a product: its first operand, the terms of the product of the others, and the
interaction of the first with these terms together. -/
def crossing : List Node → List Node
  | [] => []
  | [x] => [x]
  | x :: y :: rest =>
    [x] ++ crossing (y :: rest) ++ [app "&" [x, together (crossing (y :: rest))]]

/-- The interactions among these terms, that of the first operand last. -/
def interactions : List Node → List Node
  | [] => []
  | [_] => []
  | x :: y :: rest =>
    interactions (y :: rest) ++ [app "&" [x, together (crossing (y :: rest))]]

/-- **The operands stand before the interactions.** -/
theorem crossing_eq_append (xs : List Node) : crossing xs = xs ++ interactions xs := by
  induction xs with
  | nil => rfl
  | cons x xs ih =>
    cases xs with
    | nil => rfl
    | cons y rest =>
      calc crossing (x :: y :: rest)
          = x :: (crossing (y :: rest) ++ [app "&" [x, together (crossing (y :: rest))]]) := rfl
        _ = x :: (y :: rest ++ interactions (y :: rest) ++
              [app "&" [x, together (crossing (y :: rest))]]) := by rw [← ih]
        _ = x :: y :: rest ++ interactions (x :: y :: rest) := by
          rw [interactions, List.append_assoc]
          rfl

theorem length_interactions (xs : List Node) : (interactions xs).length = xs.length - 1 := by
  induction xs with
  | nil => rfl
  | cons x xs ih =>
    cases xs with
    | nil => rfl
    | cons y rest =>
      rw [interactions, List.length_append, ih]
      simp

theorem exists_of_mem_interactions {xs : List Node} {node : Node} (h : node ∈ interactions xs) :
    ∃ x later, node = app "&" [x, later] := by
  induction xs with
  | nil => cases h
  | cons x xs ih =>
    cases xs with
    | nil => cases h
    | cons y rest =>
      rcases List.mem_append.1 h with h | h
      · exact ih h
      · exact ⟨x, _, List.mem_singleton.1 h⟩

/-! ## Groupings -/

/-- The ways to write a product of operands: all in one call, or those from some place on in a
product of their own, which is the last operand. -/
inductive WritesProduct : List Node → Node → Prop where
  | flat {xs : List Node} (several : 2 ≤ xs.length) : WritesProduct xs (app "*" xs)
  | nested {xs ys : List Node} {inner : Node} (some_before : xs ≠ [])
      (h : WritesProduct ys inner) : WritesProduct (xs ++ ys) (app "*" (xs ++ [inner]))

theorem wellFormed_times {xs : List Node} (several : 2 ≤ xs.length)
    (each : ∀ x ∈ xs, x.wellFormed = true) : (app "*" xs).wellFormed = true := by
  have long : ¬xs.length < 2 := by omega
  simp [app, wellFormed, Plain.isName, isShortProduct, long, (allWellFormed_iff xs).2 each]

theorem wellFormed_of_writesProduct {xs : List Node} {node : Node} (h : WritesProduct xs node)
    (each : ∀ x ∈ xs, x.wellFormed = true) : node.wellFormed = true := by
  induction h with
  | flat several => exact wellFormed_times several each
  | @nested xs ys inner some_before _ ih =>
    have last := ih fun y hy => each y (List.mem_append_right _ hy)
    refine wellFormed_times ?_ fun x hx => ?_
    · have := List.length_pos_of_ne_nil some_before
      rw [List.length_append, List.length_singleton]
      omega
    · rcases List.mem_append.1 hx with hx | hx
      · exact each x (List.mem_append_left _ hx)
      · exact List.mem_singleton.1 hx ▸ last

theorem foldr_crossed_product (x y : Node) (xs ys : List Node) :
    (x :: xs).foldr crossed (product y ys) = product x (xs ++ y :: ys) := by
  induction xs generalizing x with
  | nil => rfl
  | cons z zs ih => exact congrArg (crossed x) (ih z)

/-- **However a product of settled operands is grouped, it is distributed to their right fold.** -/
theorem distribute_of_writesProduct {xs : List Node} {node : Node} (h : WritesProduct xs node)
    (settled : ∀ x ∈ xs, x.distribute = .ok x) :
    ∃ first rest, xs = first :: rest ∧ node.distribute = .ok (product first rest) := by
  induction h with
  | @flat xs several =>
    match xs, several with
    | x :: y :: rest, _ =>
      have all : distributeAll (x :: y :: rest) = .ok (x :: y :: rest) := by
        rw [distributeAll_eq_mapM, mapM_eq_ok]
        exact List.forall₂_same.2 settled
      exact ⟨x, y :: rest, rfl, distribute_times all⟩
  | @nested xs ys inner some_before _ ih =>
    obtain ⟨y, ys, rfl, distributed⟩ := ih fun y hy => settled y (List.mem_append_right _ hy)
    obtain ⟨x, xs, rfl⟩ := List.exists_cons_of_ne_nil some_before
    have before : (x :: xs).mapM distribute = .ok (x :: xs) :=
      mapM_eq_ok.2 (List.forall₂_same.2 fun x hx => settled x (List.mem_append_left _ hx))
    refine ⟨x, xs ++ y :: ys, rfl, ?_⟩
    rw [distribute_fold some_before, distributed, before, ← foldr_crossed_product]
    rfl

/-! ## Flattening -/

/-- Of two operands or more there are several terms, which make up a sum. -/
theorem together_crossing (x y : Node) (rest : List Node) :
    together (crossing (x :: y :: rest)) = app "+" (crossing (x :: y :: rest)) := by
  rw [crossing]
  cases crossing (y :: rest) <;> rfl

section Symbols

variable (name : String) (names : List String)

/-- Together, the terms of a product of symbols have themselves for summands. -/
theorem summands_together : (together (crossing ((name :: names).map var))).summands =
    crossing ((name :: names).map var) := by
  cases names with
  | nil => rfl
  | cons second names =>
    rw [List.map_cons, List.map_cons, together_crossing]
    rfl

/-- Together, the terms of a product of symbols are one operand of an interaction. -/
theorem spread_together : spread (.text "&") (together (crossing ((name :: names).map var))) =
    [together (crossing ((name :: names).map var))] := by
  cases names with
  | nil => rfl
  | cons second names =>
    rw [List.map_cons, List.map_cons, together_crossing]
    rfl

/-- **The right fold of symbols is flattened to the terms of their product.** -/
theorem flatten_product : (product (var name) (names.map var)).flatten =
    together (crossing ((name :: names).map var)) := by
  induction names generalizing name with
  | nil => rfl
  | cons second names ih =>
    have others := ih second
    have interaction : (app "&" [var name, product (var second) (names.map var)]).flatten =
        app "&" [var name, together (crossing ((second :: names).map var))] := by
      show app "&" ([var name] ++ (spread (.text "&") (product _ _).flatten ++ [])) = _
      rw [others, spread_together]
      rfl
    show app "+" ([var name] ++ (spread (.text "+") (product (var second) _).flatten ++
      (spread (.text "+") (app "&" [var name, product (var second) _]).flatten ++ []))) = _
    rw [interaction, others, spread_sum, summands_together]
    simp only [List.map_cons]
    rw [together_crossing]
    rfl

end Symbols

end Node

namespace Expansion

open Node

/-- The terms of a product of symbols are their own expansion. -/
theorem ofSummands_crossing (names : List String) :
    ofSummands (crossing (names.map var)) =
      { terms := names.map var ++ interactions (names.map var), intercept := true } := by
  rw [crossing_eq_append]
  refine ofSummands_eq_self (fun term ht => ?_) (List.pairwise_append.2 ⟨?_, ?_, ?_⟩)
  · rcases List.mem_append.1 ht with ht | ht
    · obtain ⟨name, -, rfl⟩ := List.mem_map.1 ht
      rintro ⟨⟩
    · obtain ⟨x, later, rfl⟩ := exists_of_mem_interactions ht
      exact not_isMarker_interaction [x, later]
  · refine List.pairwise_map.2 (List.pairwise_of_forall fun _ _ => Nat.le_refl 1)
  · refine List.pairwise_of_forall_mem_list fun s hs t ht => ?_
    obtain ⟨x, later, rfl⟩ := exists_of_mem_interactions hs
    obtain ⟨y, later', rfl⟩ := exists_of_mem_interactions ht
    exact Nat.le_refl 2
  · intro s hs t ht
    obtain ⟨name, -, rfl⟩ := List.mem_map.1 hs
    obtain ⟨y, later, rfl⟩ := exists_of_mem_interactions ht
    exact Nat.le_succ 1

/-- Symbols have order one, interactions of two operands order two. -/
theorem orders_crossing (names : List String) :
    (names.map var ++ interactions (names.map var)).map interactionOrder =
      List.replicate names.length 1 ++ List.replicate (names.length - 1) 2 := by
  rw [List.map_append]
  congr 1
  · exact List.eq_replicate_iff.2 ⟨by simp, by simp [var, interactionOrder]⟩
  · refine List.eq_replicate_iff.2 ⟨by simp [length_interactions], fun n hn => ?_⟩
    obtain ⟨term, ht, rfl⟩ := List.mem_map.1 hn
    obtain ⟨x, later, rfl⟩ := exists_of_mem_interactions ht
    rfl

/-- **The closed form of a product of symbols.**  However its operands are grouped to the right, the
product of `k` symbols is expanded to `2 k - 1` terms: the symbols, and the interaction of each but the
last with all that the later ones come to, from the last one to the first. -/
theorem crossing_of_product {names : List String} (named : "" ∉ names) {node : Node}
    (written : WritesProduct (names.map var) node) : ∃ x, ofNode node = .ok x ∧
      x.terms = names.map var ++ interactions (names.map var) ∧
      x.terms.length = 2 * names.length - 1 ∧
      x.orders = List.replicate names.length 1 ++ List.replicate (names.length - 1) 2 ∧
      x.intercept = true := by
  have well_formed : node.wellFormed = true := by
    refine wellFormed_of_writesProduct written fun x hx => ?_
    obtain ⟨name, hn, rfl⟩ := List.mem_map.1 hx
    have : name ≠ "" := fun empty => named (empty ▸ hn)
    simpa [var, wellFormed, Plain.isName] using this
  obtain ⟨first, rest, same, distributed⟩ := distribute_of_writesProduct written fun x hx => by
    obtain ⟨name, -, rfl⟩ := List.mem_map.1 hx
    rfl
  obtain ⟨name, names, rfl, rfl, rfl⟩ := List.map_eq_cons_iff.1 same
  have addends : node.addends = .ok (crossing ((name :: names).map var)) := by
    rw [Node.addends, distributed]
    show Except.ok _ = _
    rw [flatten_product, summands_together]
  refine ⟨_, ofNode_of_addends well_formed addends, ?_⟩
  rw [ofSummands_crossing]
  refine ⟨rfl, ?_, orders_crossing _, rfl⟩
  simp only [List.length_append, length_interactions, List.length_map, List.length_cons]
  omega

/-- The product `a * (b * (a * c))`. -/
def nestedCrossing : Node :=
  .app "*" [.var "a", .app "*" [.var "b", .app "*" [.var "a", .var "c"]]]

theorem crossing_of_product_nestedCrossing :
    WritesProduct (["a", "b", "a", "c"].map .var) nestedCrossing ∧
    ∃ x, ofNode nestedCrossing = .ok x ∧ x.intercept = true ∧ x.orders = [1, 1, 1, 1, 2, 2, 2] ∧
      x.terms.map Node.text =
        ["a", "b", "a", "c", "a&c", "b&(a + c + a&c)", "a&(b + a + c + a&c + b&(a + c + a&c))"] := by
  have written : WritesProduct (["a", "b", "a", "c"].map .var) nestedCrossing :=
    @WritesProduct.nested [.var "a"] _ _ (by decide)
      (@WritesProduct.nested [.var "b"] _ _ (by decide) (.flat (by decide)))
  obtain ⟨x, expanded, terms, -, orders, intercept⟩ := crossing_of_product (by decide) written
  refine ⟨written, x, expanded, intercept, orders, ?_⟩
  rw [terms]
  decide +kernel

end Expansion

end ModelFormula
