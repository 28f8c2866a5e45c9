import ModelFormula.Proofs.Expansion
import ModelFormula.Proofs.Orders
import ModelFormula.Proofs.RightFold

/-!
# Addends

A sum is expanded addend by addend: each is distributed and flattened by itself, what comes out of
all of them stands in one row, and that row is freed of markers and sorted.

* `IsStableSort` — one list is another one sorted by a key, items of one key keeping their order;
  `IsStableSort.unique` — there is only one such list; `isStableSort_mergeSort` — merging gives it.
* `Node.addends`, `Node.addends_sum` — the addends of a sum are those of its operands, in order.
* `Expansion.Gathers` — an expansion made of a row of addends; `Expansion.gathers_ofSummands`;
  `Expansion.Gathers.unique` — there is one expansion of a row.
* `Expansion.Gathers.perm` — the order of the addends matters to the order of the terms alone.
* `Expansion.gathers_of_sum` — the expansion of a sum.
-/

set_option autoImplicit false

namespace ModelFormula

/-! ## Stable sorting -/

section Sorting

variable {α : Type} {key : α → Nat} {xs ys zs : List α}

/-- One list is another one, sorted by a key, in which the items of each key keep their order. -/
structure IsStableSort (key : α → Nat) (xs ys : List α) : Prop where
  perm : ys.Perm xs
  sorted : ys.Pairwise fun a b => key a ≤ key b
  stable : ∀ k, (ys.filter fun a => key a = k) = xs.filter fun a => key a = k

theorem mem_iff_of_filter_key
    (same : ∀ k, (ys.filter fun a => key a = k) = zs.filter fun a => key a = k) (a : α) :
    a ∈ ys ↔ a ∈ zs := by
  have := congrArg (a ∈ ·) (same (key a))
  simpa using this

/-- Sorted lists that have the same items of each key, in the same order, are equal. -/
theorem eq_of_filter_key (hy : ys.Pairwise fun a b => key a ≤ key b)
    (hz : zs.Pairwise fun a b => key a ≤ key b)
    (same : ∀ k, (ys.filter fun a => key a = k) = zs.filter fun a => key a = k) : ys = zs := by
  have mem := mem_iff_of_filter_key same
  induction ys generalizing zs with
  | nil =>
    refine (List.eq_nil_iff_forall_not_mem.2 fun a ha => ?_).symm
    cases (mem a).2 ha
  | cons y ys ih =>
    cases zs with
    | nil => cases (mem y).1 List.mem_cons_self
    | cons z zs =>
      obtain ⟨least_y, sorted_y⟩ := List.pairwise_cons.1 hy
      obtain ⟨least_z, sorted_z⟩ := List.pairwise_cons.1 hz
      -- Each head has a least key, so both have the same, and both come first among its items.
      have below : key y ≤ key z := by
        rcases List.mem_cons.1 ((mem z).2 List.mem_cons_self) with rfl | hm
        · exact Nat.le_refl _
        · exact least_y z hm
      have above : key z ≤ key y := by
        rcases List.mem_cons.1 ((mem y).1 List.mem_cons_self) with rfl | hm
        · exact Nat.le_refl _
        · exact least_z y hm
      have keys : key z = key y := Nat.le_antisymm above below
      have first := same (key y)
      rw [List.filter_cons_of_pos (by simp), List.filter_cons_of_pos (by simpa using keys)] at first
      obtain ⟨rfl, -⟩ := List.cons.inj first
      have rest : ∀ k, (ys.filter fun a => key a = k) = zs.filter fun a => key a = k := by
        intro k
        have whole := same k
        rw [List.filter_cons, List.filter_cons] at whole
        split at whole
        · exact (List.cons.inj whole).2
        · exact whole
      rw [ih sorted_y sorted_z rest (mem_iff_of_filter_key rest)]

/-- **There is only one stable sort of a list.** -/
theorem IsStableSort.unique (hy : IsStableSort key xs ys) (hz : IsStableSort key xs zs) :
    ys = zs :=
  eq_of_filter_key hy.sorted hz.sorted fun k => (hy.stable k).trans (hz.stable k).symm

/-- Merging sorts stably. -/
theorem isStableSort_mergeSort (key : α → Nat) (xs : List α) :
    IsStableSort key xs (xs.mergeSort fun a b => key a ≤ key b) := by
  have trans : ∀ a b c : α, decide (key a ≤ key b) = true → decide (key b ≤ key c) = true →
      decide (key a ≤ key c) = true := by
    intro a b c hab hbc
    simp only [decide_eq_true_eq] at hab hbc ⊢
    exact Nat.le_trans hab hbc
  have total : ∀ a b : α, (decide (key a ≤ key b) || decide (key b ≤ key a)) = true := by
    intro a b
    simp only [Bool.or_eq_true, decide_eq_true_eq]
    exact Nat.le_total _ _
  have perm := List.mergeSort_perm xs fun a b => decide (key a ≤ key b)
  refine ⟨perm, (List.pairwise_mergeSort trans total xs).imp fun h => by simpa using h,
    fun k => ?_⟩
  have equal : (xs.filter fun a => key a = k).Pairwise fun a b => decide (key a ≤ key b) = true := by
    refine List.pairwise_of_forall_mem_list fun a ha b hb => ?_
    simp only [List.mem_filter, decide_eq_true_eq] at ha hb ⊢
    omega
  have kept := (List.sublist_mergeSort trans total equal List.filter_sublist).filter
    fun a => decide (key a = k)
  simp only [List.filter_filter, Bool.and_self] at kept
  exact (kept.eq_of_length (perm.filter _).length_eq.symm).symm

end Sorting

/-! ## Addends of sums -/

section Each

variable {ε α β : Type} {f : α → Except ε β}

/-- Taking a step for each item succeeds if each step does. -/
theorem mapM_eq_ok {xs : List α} {ys : List β} :
    xs.mapM f = .ok ys ↔ List.Forall₂ (fun x y => f x = .ok y) xs ys := by
  induction xs generalizing ys with
  | nil =>
    constructor
    · intro h
      cases h
      exact .nil
    · rintro ⟨⟩
      rfl
  | cons x xs ih =>
    rw [List.mapM_cons]
    constructor
    · intro h
      obtain ⟨y, head, h⟩ := bind_eq_ok.1 h
      obtain ⟨rest, tail, h⟩ := bind_eq_ok.1 h
      cases h
      exact .cons head (ih.1 tail)
    · rintro (_ | ⟨head, tail⟩)
      rw [head, ih.2 tail]
      rfl

/-- If there is a result for every item, there is a list of results. -/
theorem exists_forall₂ {R : α → β → Prop} {xs : List α} (h : ∀ x ∈ xs, ∃ y, R x y) :
    ∃ ys, List.Forall₂ R xs ys := by
  induction xs with
  | nil => exact ⟨[], .nil⟩
  | cons x xs ih =>
    obtain ⟨y, head⟩ := h x List.mem_cons_self
    obtain ⟨ys, tail⟩ := ih fun z hz => h z (List.mem_cons_of_mem _ hz)
    exact ⟨y :: ys, .cons head tail⟩

end Each

namespace Node

/-- The addends of an expression: it is distributed, flattened and taken apart. -/
def addends (node : Node) : Except Failure (List Node) := do
  let distributed ← node.distribute
  return distributed.flatten.summands

/-- A flattened sum takes in the summands of its flattened operands, one operand after the other. -/
theorem flattenInto_sum (nodes : List Node) :
    flattenInto (.text "+") nodes = (nodes.map fun node => node.flatten.summands).flatten := by
  induction nodes with
  | nil => rfl
  | cons node nodes ih => rw [flattenInto, spread_sum, ih, List.map_cons, List.flatten_cons]

/-- The addends of each operand come from its distribution. -/
theorem mapM_addends (nodes : List Node) :
    nodes.mapM addends =
      List.map (fun node => node.flatten.summands) <$> nodes.mapM distribute := by
  induction nodes with
  | nil => rfl
  | cons node nodes ih =>
    rw [List.mapM_cons, List.mapM_cons, ih, addends]
    cases node.distribute with
    | error e => rfl
    | ok first => cases nodes.mapM distribute <;> rfl

/-- **The addends of a sum are those of its operands**, one operand after the other. -/
theorem addends_sum (nodes : List Node) :
    (app "+" nodes).addends = List.flatten <$> nodes.mapM addends := by
  rw [mapM_addends, addends, app, distribute_call rfl, distributeAll_eq_mapM]
  cases nodes.mapM distribute with
  | error e => rfl
  | ok operands => exact congrArg Except.ok (flattenInto_sum operands)

theorem wellFormed_sum {nodes : List Node} (h : ∀ node ∈ nodes, node.wellFormed = true) :
    (app "+" nodes).wellFormed = true := by
  simp [app, wellFormed, Plain.isName, isShortProduct, (allWellFormed_iff nodes).2 h]

theorem exists_addends {node : Node} (h : node.wellFormed = true) :
    ∃ parts, node.addends = .ok parts := by
  obtain ⟨distributed, hd⟩ := exists_distribute node h
  exact ⟨distributed.flatten.summands, by rw [addends, hd]; rfl⟩

/-- A marker against the intercept is no one. -/
theorem isNumber_one_of_removesIntercept {node : Node} (h : node.removesIntercept = true) :
    node.isNumber 1 = false := by
  have other : ∀ n : Int, n ≠ 1 → node.isNumber n = true → node.isNumber 1 = false := by
    intro n apart number
    obtain ⟨value, rfl, same⟩ := isNumber_iff.1 number
    have canon : value.canon = .int n := of_decide_eq_true same
    simp [isNumber, Plain.same, canon, Plain.canon, apart]
  rcases removesIntercept_iff.1 h with ⟨operand, rfl, -⟩ | zero | minus_one
  · rfl
  · exact other 0 (by decide) zero
  · exact other (-1) (by decide) minus_one

/-- Interactions are no markers. -/
theorem not_isMarker_interaction (operands : List Node) : ¬(app "&" operands).IsMarker := by
  rw [isMarker_iff, removesIntercept_iff]
  rintro (one | ⟨operand, same, -⟩ | zero | minus_one)
  · cases one
  · exact absurd (Node.call.inj same).1 (by decide)
  · cases zero
  · cases minus_one

instance : DecidablePred IsMarker := fun _ => decidable_of_iff _ isMarker_iff.symm

end Node

namespace Expansion

theorem ofNode_of_addends {right : Node} (h : right.wellFormed = true) {parts : List Node}
    (addends : right.addends = .ok parts) : ofNode right = .ok (ofSummands parts) := by
  obtain ⟨distributed, hd, same⟩ := bind_eq_ok.1 addends
  cases same
  unfold ofNode
  rw [(Node.validate_eq_ok_iff right).2 h, hd]
  rfl

/-- What is made of a row of addends: the terms are those that are no markers, sorted, each with its
own order, and the intercept is given up if one of them asks for that. -/
structure Gathers (addends : List Node) (x : Expansion) : Prop where
  terms : IsStableSort Node.interactionOrder (addends.filter fun s => ¬s.IsMarker) x.terms
  orders : ∀ i : Nat, x.orders[i]? = x.terms[i]?.map Node.interactionOrder
  intercept : x.intercept = false ↔ ∃ s ∈ addends, s.removesIntercept = true

theorem gathers_ofSummands (addends : List Node) : Gathers addends (ofSummands addends) := by
  have kept : (addends.filter fun s => !s.isNumber 1).filter (fun s => !s.removesIntercept) =
      addends.filter fun s => ¬s.IsMarker := by
    rw [List.filter_filter]
    refine List.filter_congr fun s _ => ?_
    simp [Node.isMarker_iff, Bool.and_comm]
  refine ⟨?_, fun i => List.getElem?_map .., ?_⟩
  · rw [← kept]
    exact isStableSort_mergeSort _ _
  · simp only [ofSummands, Bool.not_eq_false', List.any_eq_true, List.mem_filter,
      Bool.not_eq_true']
    constructor
    · rintro ⟨s, ⟨mem, -⟩, removes⟩
      exact ⟨s, mem, removes⟩
    · rintro ⟨s, mem, removes⟩
      exact ⟨s, ⟨mem, Node.isNumber_one_of_removesIntercept removes⟩, removes⟩

variable {addends others : List Node} {x y : Expansion}

theorem Gathers.orders_eq (h : Gathers addends x) :
    x.orders = x.terms.map Node.interactionOrder :=
  List.ext_getElem? fun i => by rw [h.orders i, List.getElem?_map]

/-- **An expansion is determined by the addends that it gathers.** -/
theorem Gathers.unique (hx : Gathers addends x) (hy : Gathers addends y) : x = y := by
  have terms := hx.terms.unique hy.terms
  have removed : x.intercept = false ↔ y.intercept = false := hx.intercept.trans hy.intercept.symm
  have intercept : x.intercept = y.intercept := by
    cases hxi : x.intercept <;> cases hyi : y.intercept <;> simp [hxi, hyi] at removed ⊢
  cases x
  cases y
  obtain rfl := terms
  obtain rfl := intercept
  rfl

/-- **The order of the addends matters to the order of the terms alone.** -/
theorem Gathers.perm (hx : Gathers addends x) (hy : Gathers others y) (same : others.Perm addends) :
    y.orders = x.orders ∧ y.intercept = x.intercept ∧ y.terms.Perm x.terms := by
  have terms : y.terms.Perm x.terms :=
    hy.terms.perm.trans ((same.filter _).trans hx.terms.perm.symm)
  refine ⟨?_, ?_, terms⟩
  · rw [hx.orders_eq, hy.orders_eq]
    refine List.Perm.eq_of_pairwise (fun m n _ _ => Nat.le_antisymm)
      (List.pairwise_map.2 hy.terms.sorted) (List.pairwise_map.2 hx.terms.sorted)
      (terms.map _)
  · have removed : y.intercept = false ↔ x.intercept = false := by
      rw [hx.intercept, hy.intercept]
      simp only [same.mem_iff]
    cases hxi : x.intercept <;> cases hyi : y.intercept <;> simp [hxi, hyi] at removed ⊢

/-- **A sum is expanded addend by addend.**  Each operand has addends of its own, and the expansion of
the sum gathers all of them, one operand after the other.  With the operands in another order it has
the same orders, the same intercept, and the same terms up to their order. -/
theorem gathers_of_sum {nodes : List Node} (h : ∀ node ∈ nodes, node.wellFormed = true) :
    ∃ parts x, List.Forall₂ (fun node part => node.addends = .ok part) nodes parts ∧
      ofNode (.app "+" nodes) = .ok x ∧ Gathers parts.flatten x ∧
      ∀ others : List Node, others.Perm nodes → ∃ y, ofNode (.app "+" others) = .ok y ∧
        y.orders = x.orders ∧ y.intercept = x.intercept ∧ y.terms.Perm x.terms := by
  have expanded : ∀ {others : List Node} {parts : List (List Node)}, others.Perm nodes →
      List.Forall₂ (fun node part => node.addends = .ok part) others parts →
      ofNode (.app "+" others) = .ok (ofSummands parts.flatten) := by
    intro others parts same each
    refine ofNode_of_addends (Node.wellFormed_sum fun node hn => h node (same.mem_iff.1 hn)) ?_
    rw [Node.addends_sum, mapM_eq_ok.2 each]
    rfl
  obtain ⟨parts, each⟩ := exists_forall₂ fun node hn => Node.exists_addends (h node hn)
  refine ⟨parts, _, each, expanded (.refl _) each, gathers_ofSummands _, fun others same => ?_⟩
  obtain ⟨moved, each_moved, same_parts⟩ := List.perm_comp_forall₂ same each
  exact ⟨_, expanded same each_moved,
    (gathers_ofSummands parts.flatten).perm (gathers_ofSummands moved.flatten) same_parts.flatten⟩

/-- The operands of `0 + a * b + (c&d + 1) + c + (a - b)`. -/
def mixedAddends : List Node :=
  [.literal (.int 0), .app "*" [.var "a", .var "b"],
    .app "+" [.app "&" [.var "c", .var "d"], .literal (.int 1)], .var "c",
    .app "-" [.var "a", .var "b"]]

theorem gathers_of_sum_mixedAddends : (∀ node ∈ mixedAddends, node.wellFormed = true) ∧
    ∃ x, ofNode (.app "+" mixedAddends) = .ok x ∧ x.orders = [1, 1, 1, 1, 2, 2] ∧
      ∃ y, ofNode (.app "+" mixedAddends.reverse) = .ok y ∧ y.orders = x.orders ∧
        y.intercept = false := by
  have well_formed : ∀ node ∈ mixedAddends, node.wellFormed = true := by decide
  obtain ⟨parts, x, -, expanded, -, moved⟩ := gathers_of_sum well_formed
  have value : (fun x : Expansion => (x.orders, x.intercept)) <$> ofNode (.app "+" mixedAddends) =
      .ok ([1, 1, 1, 1, 2, 2], false) := by
    cbv
  rw [expanded] at value
  obtain ⟨orders, intercept⟩ := Prod.mk.inj (Except.ok.inj value)
  obtain ⟨y, expanded', orders', intercept', -⟩ := moved _ (List.reverse_perm _)
  exact ⟨well_formed, x, expanded, orders, y, expanded', orders', intercept'.trans intercept⟩

end Expansion

end ModelFormula
