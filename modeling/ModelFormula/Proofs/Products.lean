import Mathlib
import ModelFormula.Block
import ModelFormula.Proofs.FirstFailure
import ModelFormula.Proofs.Matrix.Assembly

/-!
# Products of arrays

The product of two arrays has a column for every pair of a column of the one and a column of the
other, and products are nested either way with the same columns.

* `NumericArray.dims?` — the rows and columns of an array; `NumericArray.entry` — its numbers.
* `Block.refusal?`, `Block.failure?_expandArrays` — which arrays have no product, and why.
* `Block.IsProductOf`, `Block.isProductOf_expand` — what a product is.
* `Block.toArray` — a product as an array, of which there are products again.
* `Block.SameTriples`, `Block.sameTriples_of_products` — nested products.
* `Block.products_of_expandArrays` — acceptance, layout and nesting of products.
-/

set_option autoImplicit false

namespace ModelFormula

namespace NumericArray

/-- The rows and columns of an array; one dimension is a single column. -/
def dims? (a : NumericArray) : Option (Nat × Nat) :=
  match a.shape with
  | [n] => some (n, 1)
  | [n, p] => some (n, p)
  | _ => none

theorem dims?_of_shape {a : NumericArray} {n p : Nat} (h : a.shape = [n, p]) :
    a.dims? = some (n, p) := by
  rw [dims?, h]

/-- The number in a row and a column of an array with `width` columns. -/
def entry (a : NumericArray) (width row column : Nat) : Float :=
  a.values.getD (row * width + column) 0.0

end NumericArray

namespace ShapeRule

theorem check_two (name : String) (shape : List Nat) :
    check { minDims := some 2, maxDims := some 2 } name shape =
      if shape.length < 2 then .error (check.wrongDims name shape.length "at least 2")
      else if 2 < shape.length then .error (check.wrongDims name shape.length "at most 2")
      else .ok () := by
  match shape with
  | [] => rfl
  | [_] => rfl
  | [_, _] => rfl
  | _ :: _ :: _ :: rest =>
    have many : ¬((rest.length : Int) + 1 + 1 + 1 < 2) := by omega
    have more : (2 : Int) < rest.length + 1 + 1 + 1 := by omega
    simp only [check, List.length_cons, Option.filter, Nat.cast_add, Nat.cast_one, many, more,
      decide_false, decide_true, Bool.false_eq_true, if_true, if_false]
    rw [if_neg (by omega), if_pos (by omega)]
    rfl

theorem check_rows (name : String) (n m q : Nat) :
    check { sizes := some [some n, none] } name [m, q] =
      if m = n then .ok ()
      else .error (.dataIssue (name ++ " dimension 0 has size " ++ toString m ++ ", expected " ++
        toString n)) := by
  by_cases same : m = n
  · simp [check, checkSizes, mismatch?, same]
  · have first : " dimension 0 has size " = " dimension " ++ toString 0 ++ " has size " := rfl
    have failing : mismatch? 0 [m, q] [some (n : Int), none] = some (0, m, (n : Int)) := by
      simp [mismatch?, same]
    show checkSizes name [m, q] [some (n : Int), none] = _
    rw [if_neg same, checkSizes, if_neg (by simp), failing, first]
    simp only [String.append_assoc]
    rfl

theorem check_rows_of_length (name : String) (n : Nat) {shape : List Nat}
    (differ : shape.length ≠ 2) :
    check { sizes := some [some n, none] } name shape =
      .error (.dataIssue (name ++ " has shape " ++ shapeText shape ++ ", expected " ++
        tupleText [toString n, "None"])) := by
  have unequal : shape.length ≠ [some (n : Int), none].length := differ
  show checkSizes name shape [some (n : Int), none] = _
  rw [checkSizes, if_pos unequal]
  rfl

end ShapeRule

namespace Block

variable {a b c : NumericArray} {n p q s : Nat}

/-! ## Acceptance -/

/-- Why two arrays have no product: the dimensions of the first one, those of the second one, or
different numbers of rows. -/
def refusal? (a b : NumericArray) : Option Failure :=
  match a.dims?, b.dims? with
  | none, _ =>
    some (ShapeRule.check.wrongDims "left block" a.shape.length
      (if a.shape.length < 2 then "at least 2" else "at most 2"))
  | some (n, _), none =>
    some (.dataIssue ("right block has shape " ++ ShapeRule.shapeText b.shape ++ ", expected " ++
      tupleText [toString n, "None"]))
  | some (n, _), some (m, _) =>
    if m = n then none
    else some (.dataIssue ("right block dimension 0 has size " ++ toString m ++ ", expected " ++
      toString n))

theorem asColumns_of_dims (h : a.dims? = some (n, p)) : asColumns a = ⟨[n, p], a.values⟩ := by
  obtain ⟨shape, values⟩ := a
  match shape with
  | [] => cases h
  | [_] =>
    cases h
    rfl
  | [_, _] =>
    cases h
    rfl
  | _ :: _ :: _ :: _ => cases h

theorem asColumns_of_none (h : a.dims? = none) : asColumns a = a ∧ a.shape.length ≠ 2 := by
  obtain ⟨shape, values⟩ := a
  match shape with
  | [] => exact ⟨rfl, by simp⟩
  | [_] => cases h
  | [_, _] => cases h
  | _ :: _ :: _ :: _ => exact ⟨rfl, by simp⟩

/-- Arrays with the same number of rows have a product. -/
theorem expandArrays_of_dims (ha : a.dims? = some (n, p)) (hb : b.dims? = some (n, q)) :
    expandArrays a b = .ok (expand (ofArray n p a.values) (ofArray n q b.values)) := by
  unfold expandArrays
  simp only [asColumns_of_dims ha, asColumns_of_dims hb, ShapeRule.check_two,
    ShapeRule.check_rows]
  rfl

/-- **Which arrays have no product**, and what is said about them. -/
theorem failure?_expandArrays (a b : NumericArray) :
    failure? (expandArrays a b) = refusal? a b := by
  unfold refusal?
  cases ha : a.dims? with
  | none =>
    obtain ⟨same, differ⟩ := asColumns_of_none ha
    unfold expandArrays
    simp only [same, ShapeRule.check_two]
    by_cases few : a.shape.length < 2
    · rw [if_pos few, if_pos few]
      rfl
    · rw [if_neg few, if_neg few, if_pos (by omega)]
      rfl
  | some dims =>
    obtain ⟨n, p⟩ := dims
    cases hb : b.dims? with
    | none =>
      obtain ⟨same, differ⟩ := asColumns_of_none hb
      unfold expandArrays
      simp only [asColumns_of_dims ha, same, ShapeRule.check_two,
        ShapeRule.check_rows_of_length _ _ differ]
      rfl
    | some dims =>
      obtain ⟨m, q⟩ := dims
      by_cases rows : m = n
      · subst rows
        rw [expandArrays_of_dims ha hb]
        simp
      · unfold expandArrays
        simp only [asColumns_of_dims ha, asColumns_of_dims hb, ShapeRule.check_two,
          ShapeRule.check_rows, if_neg rows]
        rfl

/-- All other arrays are refused for what they are. -/
theorem exists_issue (h : ¬∃ n p q, a.dims? = some (n, p) ∧ b.dims? = some (n, q)) :
    ∃ issue, refusal? a b = some (.dataIssue issue) := by
  unfold refusal?
  cases ha : a.dims? with
  | none => exact ⟨_, rfl⟩
  | some dims =>
    obtain ⟨n, p⟩ := dims
    cases hb : b.dims? with
    | none => exact ⟨_, rfl⟩
    | some dims =>
      obtain ⟨m, q⟩ := dims
      have rows : m ≠ n := by
        rintro rfl
        exact h ⟨m, p, q, ha, hb⟩
      exact ⟨_, if_neg rows⟩

/-! ## Places of pairs -/

/-- A pair of columns stands within the product. -/
theorem pair_lt {i l : Nat} (hi : i < p) (hl : l < q) : i * q + l < p * q := by
  have next : (i + 1) * q ≤ p * q := Nat.mul_le_mul_right q hi
  rw [Nat.succ_mul] at next
  omega

/-- The columns of a product are numbered by the pairs, without gaps and without repetitions. -/
theorem existsUnique_pair {j : Nat} (hj : j < p * q) :
    ∃! at_j : Nat × Nat, at_j.1 < p ∧ at_j.2 < q ∧ at_j.1 * q + at_j.2 = j := by
  have positive : 0 < q := Nat.pos_of_mul_pos_left (Nat.zero_lt_of_lt hj)
  refine ⟨(j / q, j % q), ⟨Nat.div_lt_of_lt_mul (by rwa [Nat.mul_comm]), Nat.mod_lt j positive,
    Nat.div_add_mod' j q⟩, ?_⟩
  rintro ⟨i, l⟩ ⟨-, hl, rfl⟩
  have quotient : (i * q + l) / q = i := by
    rw [Nat.add_comm, Nat.add_mul_div_right l i positive, Nat.div_eq_of_lt hl, Nat.zero_add]
  have remainder : (i * q + l) % q = l := by
    rw [Nat.mul_add_mod_self_right, Nat.mod_eq_of_lt hl]
  rw [quotient, remainder]

/-! ## Layout -/

/-- The block is the product of an array with `n` rows and `p` columns and one with `n` rows and `q`
columns: a column for every pair, and in it the products of the numbers of its two columns. -/
structure IsProductOf (a b : NumericArray) (n p q : Nat) (product : Block) : Prop where
  height : product.height = n
  width : product.width = p * q
  wellShaped : product.WellShaped
  entry : ∀ r < n, ∀ i < p, ∀ l < q,
    product.entry r (i * q + l) = a.entry p r i * b.entry q r l
  column : ∀ j < product.width,
    ∃! at_j : Nat × Nat, at_j.1 < p ∧ at_j.2 < q ∧ at_j.1 * q + at_j.2 = j

theorem entry_eq_getD (b : Block) (r j : Nat) : b.entry r j = (entryAt b.columns r j).getD 0.0 := by
  unfold entry entryAt
  rw [List.getD_eq_getElem?_getD, List.getD_eq_getElem?_getD]
  cases b.columns[j]? <;> rfl

theorem entryAt_ofArray (a : NumericArray) {r i : Nat} (hr : r < n) (hi : i < p) :
    entryAt (ofArray n p a.values).columns r i = some (a.entry p r i) := by
  simp [entryAt, ofArray, NumericArray.entry, hr, hi]

theorem wellShaped_ofArray (n p : Nat) (values : List Float) : (ofArray n p values).WellShaped := by
  intro column mem
  obtain ⟨i, -, rfl⟩ := List.mem_map.1 mem
  simp [ofArray]

theorem width_ofArray (n p : Nat) (values : List Float) : (ofArray n p values).width = p := by
  simp [ofArray, width]

/-- **The block of products is the product.** -/
theorem isProductOf_expand (a b : NumericArray) (n p q : Nat) :
    IsProductOf a b n p q (expand (ofArray n p a.values) (ofArray n q b.values)) := by
  obtain ⟨length, product⟩ := isProduct_expand (ofArray n p a.values) (ofArray n q b.values)
  have left : (ofArray n p a.values).columns.length = p := width_ofArray n p a.values
  have right : (ofArray n q b.values).columns.length = q := width_ofArray n q b.values
  rw [left, right] at length
  rw [right] at product
  refine ⟨rfl, length, wellShaped_expand (wellShaped_ofArray _ _ _) (wellShaped_ofArray _ _ _) rfl,
    fun r hr i hi l hl => ?_, fun j hj => existsUnique_pair (length ▸ hj)⟩
  rw [entry_eq_getD, product i l r _ _ (entryAt_ofArray a hr hi) (entryAt_ofArray b hr hl),
    Option.getD_some]

/-! ## Nesting -/

/-- A block as an array. -/
def toArray (b : Block) : NumericArray := ⟨[b.height, b.width], b.rows.flatten⟩

theorem entry_toArray {b : Block} {r j : Nat} (hr : r < b.height) (hj : j < b.width) :
    b.toArray.entry b.width r j = b.entry r j := by
  have flat : b.rows.flatten = (List.range b.height).flatMap fun r =>
      b.columns.map fun column => column.getD r 0.0 := by
    rw [rows, List.flatMap_def]
  have number : b.rows.flatten[r * b.width + j]? = some (b.columns[j].getD r 0.0) := by
    rw [flat]
    refine (getElem?_flatMap_map (fun r (column : List Float) => column.getD r 0.0) _ _ hj).trans ?_
    rw [List.getElem?_range hr, List.getElem?_eq_getElem hj]
    rfl
  rw [NumericArray.entry, toArray, List.getD_eq_getElem?_getD, number, Option.getD_some,
    entry_of_column (List.getElem?_eq_getElem hj)]

/-- The products of three arrays, nested to the left and nested to the right, have the same shape,
and every triple of columns the same place. -/
structure SameTriples (a b c : NumericArray) (n p q s : Nat) (left right : Block) : Prop where
  height : left.height = n ∧ right.height = n
  width : left.width = p * q * s ∧ right.width = p * q * s
  wellShaped : left.WellShaped ∧ right.WellShaped
  left_entry : ∀ r < n, ∀ i < p, ∀ l < q, ∀ m < s, left.entry r ((i * q + l) * s + m) =
    a.entry p r i * b.entry q r l * c.entry s r m
  right_entry : ∀ r < n, ∀ i < p, ∀ l < q, ∀ m < s, right.entry r ((i * q + l) * s + m) =
    a.entry p r i * (b.entry q r l * c.entry s r m)
  column : ∀ j < p * q * s, ∃! at_j : Nat × Nat × Nat,
    at_j.1 < p ∧ at_j.2.1 < q ∧ at_j.2.2 < s ∧ (at_j.1 * q + at_j.2.1) * s + at_j.2.2 = j

theorem place_triple (q s i l m : Nat) : (i * q + l) * s + m = i * (q * s) + (l * s + m) := by
  ring

/-- The columns of a nested product are numbered by the triples. -/
theorem existsUnique_triple {j : Nat} (hj : j < p * q * s) : ∃! at_j : Nat × Nat × Nat,
    at_j.1 < p ∧ at_j.2.1 < q ∧ at_j.2.2 < s ∧ (at_j.1 * q + at_j.2.1) * s + at_j.2.2 = j := by
  obtain ⟨⟨u, m⟩, ⟨hu, hm, rfl⟩, outer⟩ := existsUnique_pair hj
  obtain ⟨⟨i, l⟩, ⟨hi, hl, rfl⟩, inner⟩ := existsUnique_pair hu
  refine ⟨(i, l, m), ⟨hi, hl, hm, rfl⟩, ?_⟩
  rintro ⟨i', l', m'⟩ ⟨hi', hl', hm', same⟩
  -- The last index is that of the outer product, the other two are those of the inner one.
  have outer := outer (i' * q + l', m') ⟨pair_lt hi' hl', hm', same⟩
  obtain ⟨pairs, rfl⟩ := Prod.mk.inj outer
  have inner := inner (i', l') ⟨hi', hl', pairs⟩
  obtain ⟨rfl, rfl⟩ := Prod.mk.inj inner
  rfl

theorem IsProductOf.dims?_toArray {product : Block} (h : IsProductOf a b n p q product) :
    product.toArray.dims? = some (n, p * q) := by
  show some (product.height, product.width) = some (n, p * q)
  rw [h.height, h.width]

/-- The numbers of a product as an array. -/
theorem IsProductOf.entry_toArray {product : Block} (h : IsProductOf a b n p q product)
    {r i l : Nat} (hr : r < n) (hi : i < p) (hl : l < q) :
    product.toArray.entry (p * q) r (i * q + l) = a.entry p r i * b.entry q r l := by
  have inside : i * q + l < product.width := h.width ▸ pair_lt hi hl
  rw [← h.width, Block.entry_toArray (h.height ▸ hr) inside, h.entry r hr i hi l hl]

/-- **Nested either way, products have the same shape and one column for each triple.** -/
theorem sameTriples_of_products {ab bc left right : Block} (hab : IsProductOf a b n p q ab)
    (hbc : IsProductOf b c n q s bc) (hleft : IsProductOf ab.toArray c n (p * q) s left)
    (hright : IsProductOf a bc.toArray n p (q * s) right) :
    SameTriples a b c n p q s left right where
  height := ⟨hleft.height, hright.height⟩
  width := ⟨hleft.width, by rw [hright.width, Nat.mul_assoc]⟩
  wellShaped := ⟨hleft.wellShaped, hright.wellShaped⟩
  left_entry := by
    intro r hr i hi l hl m hm
    rw [hleft.entry r hr _ (pair_lt hi hl) m hm, hab.entry_toArray hr hi hl]
  right_entry := by
    intro r hr i hi l hl m hm
    rw [place_triple, hright.entry r hr i hi _ (pair_lt hl hm), hbc.entry_toArray hr hl hm]
  column := fun _ => existsUnique_triple

/-! ## Products -/

/-- **The product of two arrays.**  It is refused exactly if one of them has not one or two
dimensions or they differ in their number of rows, and else it has a column for every pair of
columns.  Products of three arrays have the same columns for the same triples, however they are
nested. -/
theorem products_of_expandArrays (a b : NumericArray) :
    ((∃ issue, expandArrays a b = .error (.dataIssue issue)) ↔
      ¬∃ n p q, a.dims? = some (n, p) ∧ b.dims? = some (n, q)) ∧
    ∀ n p q, a.dims? = some (n, p) → b.dims? = some (n, q) →
      (∃ product, expandArrays a b = .ok product ∧ IsProductOf a b n p q product) ∧
      ∀ (c : NumericArray) (s : Nat), c.dims? = some (n, s) → ∃ ab bc left right,
        expandArrays a b = .ok ab ∧ expandArrays b c = .ok bc ∧
        expandArrays ab.toArray c = .ok left ∧ expandArrays a bc.toArray = .ok right ∧
        SameTriples a b c n p q s left right := by
  have accepted : ∀ {a b : NumericArray} {n p q : Nat}, a.dims? = some (n, p) →
      b.dims? = some (n, q) →
      ∃ product, expandArrays a b = .ok product ∧ IsProductOf a b n p q product :=
    fun ha hb => ⟨_, expandArrays_of_dims ha hb, isProductOf_expand _ _ _ _ _⟩
  refine ⟨?_, fun n p q ha hb => ⟨accepted ha hb, fun c s hc => ?_⟩⟩
  · constructor
    · rintro ⟨issue, refused⟩ ⟨n, p, q, ha, hb⟩
      obtain ⟨product, done, -⟩ := accepted ha hb
      rw [done] at refused
      cases refused
    · intro differ
      obtain ⟨issue, refused⟩ := exists_issue differ
      exact ⟨issue, failure?_eq_some_iff.1 ((failure?_expandArrays a b).trans refused)⟩
  · obtain ⟨ab, done_ab, hab⟩ := accepted ha hb
    obtain ⟨bc, done_bc, hbc⟩ := accepted hb hc
    obtain ⟨left, done_left, hleft⟩ := accepted hab.dims?_toArray hc
    obtain ⟨right, done_right, hright⟩ := accepted ha hbc.dims?_toArray
    exact ⟨ab, bc, left, right, done_ab, done_bc, done_left, done_right,
      sameTriples_of_products hab hbc hleft hright⟩

/-- A block of two columns times a single column that is given in one dimension. -/
theorem products_of_expandArrays_vector : ∃ product,
    expandArrays ⟨[2, 2], [1.0, 2.0, 3.0, 4.0]⟩ ⟨[2], [5.0, 6.0]⟩ = .ok product ∧
      product = ⟨2, [[5.0, 18.0], [10.0, 24.0]]⟩ ∧
      IsProductOf ⟨[2, 2], [1.0, 2.0, 3.0, 4.0]⟩ ⟨[2], [5.0, 6.0]⟩ 2 2 1 product := by
  obtain ⟨product, done, layout⟩ :=
    ((products_of_expandArrays ⟨[2, 2], [1.0, 2.0, 3.0, 4.0]⟩ ⟨[2], [5.0, 6.0]⟩).2
      2 2 1 rfl rfl).1
  refine ⟨product, done, ?_, layout⟩
  have computed : expandArrays ⟨[2, 2], [1.0, 2.0, 3.0, 4.0]⟩ ⟨[2], [5.0, 6.0]⟩ =
      .ok ⟨2, [[5.0, 18.0], [10.0, 24.0]]⟩ := by decide +kernel
  exact Except.ok.inj (done.symm.trans computed)

end Block

end ModelFormula
