import Mathlib
import ModelFormula.Proofs.Factor
import ModelFormula.Proofs.Mask
import ModelFormula.Table

/-!
# Rows by position

Tables made of the rows of another one, in any order and each any number of times.

* `select` — the items of a list at given positions; `select_map`, `select_zipWith`,
  `select_select` — selection commutes with what is done item by item, and composes.
* `Factor.select`, `Column.select`, `Table.select` — the rows at given positions.
* `Mask.keep_eq_select`, `Table.keep_eq_select` — a mask keeps the rows at its positions.
* `Mask.renumber` — rows of a table by their numbers among the kept ones;
  `Mask.keep_select` — keeping rows of a selection is selecting among the kept rows.
-/

set_option autoImplicit false

namespace ModelFormula

variable {α β γ : Type}

/-- The items at some positions, in the order of these. -/
def select (positions : List Nat) (xs : List α) : List α := positions.filterMap fun i => xs[i]?

/-- All positions are those of rows of a table with `n` rows. -/
abbrev Within (n : Nat) (positions : List Nat) : Prop := ∀ i ∈ positions, i < n

theorem select_cons {i : Nat} {positions : List Nat} {xs : List α} (h : i < xs.length) :
    select (i :: positions) xs = xs[i] :: select positions xs := by
  rw [select, List.filterMap_cons, List.getElem?_eq_getElem h]
  rfl

theorem select_map (f : α → β) (positions : List Nat) (xs : List α) :
    select positions (xs.map f) = (select positions xs).map f := by
  simp only [select, List.map_filterMap, List.getElem?_map]

theorem select_succ (positions : List Nat) (x : α) (xs : List α) :
    select (positions.map (· + 1)) (x :: xs) = select positions xs := by
  simp [select, List.filterMap_map]

/-- The selected items with a property are those at the positions of items with it. -/
theorem filter_select (p : α → Bool) (positions : List Nat) (xs : List α) :
    (select positions xs).filter p = select (positions.filter fun i => xs[i]?.any p) xs := by
  unfold select
  rw [List.filter_filterMap, List.filterMap_filter]
  refine List.filterMap_congr fun i _ => ?_
  cases xs[i]? with
  | none => rfl
  | some x => rfl

theorem length_select {positions : List Nat} {xs : List α} (h : Within xs.length positions) :
    (select positions xs).length = positions.length := by
  induction positions with
  | nil => rfl
  | cons i positions ih =>
    rw [select_cons (h i List.mem_cons_self), List.length_cons, List.length_cons,
      ih fun j hj => h j (List.mem_cons_of_mem _ hj)]

/-- From lists of one length as many items are selected. -/
theorem length_select_congr (positions : List Nat) {xs : List α} {ys : List β}
    (h : xs.length = ys.length) : (select positions xs).length = (select positions ys).length := by
  induction positions with
  | nil => rfl
  | cons i positions ih =>
    by_cases hi : i < xs.length
    · rw [select_cons hi, select_cons (h ▸ hi), List.length_cons, List.length_cons, ih]
    · have hx : xs[i]? = none := List.getElem?_eq_none (by omega)
      have hy : ys[i]? = none := List.getElem?_eq_none (by omega)
      simpa [select, hx, hy] using ih

theorem getElem?_select {positions : List Nat} {xs : List α} (h : Within xs.length positions)
    (r : Nat) : (select positions xs)[r]? = positions[r]?.bind fun i => xs[i]? := by
  induction positions generalizing r with
  | nil => rfl
  | cons i positions ih =>
    have hi := h i List.mem_cons_self
    rw [select_cons hi]
    cases r with
    | zero => simp [hi]
    | succ r => simpa using ih (fun j hj => h j (List.mem_cons_of_mem _ hj)) r

theorem mem_of_mem_select {positions : List Nat} {xs : List α} {x : α}
    (h : x ∈ select positions xs) : x ∈ xs := by
  obtain ⟨i, -, hi⟩ := List.mem_filterMap.1 h
  exact List.mem_of_getElem? hi

/-- A selection from a selection is a selection. -/
theorem select_select {positions rows : List Nat} {xs : List α} (h : Within xs.length positions) :
    select rows (select positions xs) = select (select rows positions) xs := by
  have items : ∀ r : Nat, (select positions xs)[r]? = positions[r]?.bind fun i => xs[i]? :=
    getElem?_select h
  show rows.filterMap _ = (rows.filterMap _).filterMap _
  rw [List.filterMap_filterMap]
  exact List.filterMap_congr fun r _ => items r

theorem select_replicate {n : Nat} {positions : List Nat} (h : Within n positions) (x : α) :
    select positions (List.replicate n x) = List.replicate positions.length x := by
  refine List.eq_replicate_iff.2 ⟨?_, fun y hy => List.eq_of_mem_replicate (mem_of_mem_select hy)⟩
  exact length_select (by rwa [List.length_replicate])

/-- Selection commutes with a function of two items at one place. -/
theorem select_zipWith (f : α → β → γ) (positions : List Nat) {xs : List α} {ys : List β}
    (h : xs.length = ys.length) : select positions (List.zipWith f xs ys) =
      List.zipWith f (select positions xs) (select positions ys) := by
  induction positions with
  | nil => rfl
  | cons i positions ih =>
    by_cases hi : i < xs.length
    · have hy : i < ys.length := h ▸ hi
      have hz : i < (List.zipWith f xs ys).length := by rw [List.length_zipWith]; omega
      rw [select_cons hi, select_cons hy, select_cons hz, List.getElem_zipWith,
        List.zipWith_cons_cons, ih]
    · have hx : xs[i]? = none := List.getElem?_eq_none (by omega)
      have hy : ys[i]? = none := List.getElem?_eq_none (by omega)
      have hz : (List.zipWith f xs ys)[i]? = none :=
        List.getElem?_eq_none (by rw [List.length_zipWith]; omega)
      simpa [select, hx, hy, hz] using ih

theorem select_range (xs : List α) : select (List.range xs.length) xs = xs := by
  refine List.ext_getElem? fun i => ?_
  rw [getElem?_select fun j hj => List.mem_range.1 hj]
  by_cases hi : i < xs.length
  · simp [hi]
  · have past : (List.range xs.length)[i]? = none := List.getElem?_eq_none (by simpa using hi)
    rw [past, List.getElem?_eq_none (Nat.le_of_not_lt hi)]
    rfl

/-- Row numbers stand in the rows of their numbers. -/
theorem select_of_range {n : Nat} {positions : List Nat} (h : Within n positions) :
    select positions (List.range n) = positions := by
  unfold select
  conv_rhs => rw [← List.filterMap_some (l := positions)]
  refine List.filterMap_congr fun i hi => ?_
  exact List.getElem?_range (h i hi)

theorem within_of_perm {n : Nat} {rows : List Nat} (h : rows.Perm (List.range n)) :
    Within n rows := fun _ hi => List.mem_range.1 (h.mem_iff.1 hi)

/-- The items in another order. -/
theorem select_perm {rows : List Nat} {xs : List α} (h : rows.Perm (List.range xs.length)) :
    (select rows xs).Perm xs := by
  have items := h.filterMap fun i => xs[i]?
  have all : (List.range xs.length).filterMap (fun i => xs[i]?) = xs := select_range xs
  rwa [all] at items

/-! ## Columns and tables -/

/-- The rows of a factor at some positions. -/
def Factor.select (positions : List Nat) (f : Factor) : Factor :=
  { f with
    codes := ModelFormula.select positions f.codes
    codes_lt := fun k hk => f.codes_lt k (mem_of_mem_select hk) }

theorem Factor.values_select (positions : List Nat) (f : Factor) :
    (f.select positions).values = ModelFormula.select positions f.values := by
  unfold values
  rw [select_map]
  rfl

/-- The rows of a column at some positions. -/
def Column.select (positions : List Nat) : Column → Column
  | .doubles values => .doubles (ModelFormula.select positions values)
  | .ints cells => .ints (ModelFormula.select positions cells)
  | .truths cells => .truths (ModelFormula.select positions cells)
  | .texts storage cells => .texts storage (ModelFormula.select positions cells)
  | .objects values => .objects (ModelFormula.select positions values)
  | .factor f => .factor (f.select positions)
  | .other storage cells => .other storage (ModelFormula.select positions cells)

theorem Column.length_select (positions : List Nat) (c : Column) (rows : List α)
    (h : c.length = rows.length) :
    (c.select positions).length = (ModelFormula.select positions rows).length := by
  cases c <;> exact length_select_congr positions h

/-- The rows of a table at some positions, with their labels. -/
def Table.select (positions : List Nat) (t : Table) : Table where
  columns := t.columns.map fun c => (c.1, c.2.select positions)
  index := ModelFormula.select positions t.index
  length_eq := by
    intro c hc
    obtain ⟨d, hd, rfl⟩ := List.mem_map.1 hc
    exact d.2.length_select positions t.index (t.length_eq d hd)

theorem Table.labels_select (positions : List Nat) (t : Table) :
    (t.select positions).labels = t.labels := by
  simp [labels, select, Function.comp_def]

theorem Table.rows_select {positions : List Nat} {t : Table} (h : Within t.rows positions) :
    (t.select positions).rows = positions.length := length_select h

/-! ## Masks -/

namespace Mask

theorem within_positions (mask : Mask) : Within mask.length mask.positions := fun _ hi =>
  (List.getElem?_eq_some_iff.1 (mem_positions.1 hi)).1

/-- A mask keeps the rows at its positions. -/
theorem keep_eq_select (mask : Mask) (xs : List α) : mask.keep xs = select mask.positions xs := by
  induction mask generalizing xs with
  | nil => rfl
  | cons kept mask ih =>
    cases xs with
    | nil => simp [keep_nil, select]
    | cons x xs =>
      cases kept with
      | false =>
        rw [positions_cons, if_neg (by simp), select_succ]
        exact ih xs
      | true =>
        rw [positions_cons, if_pos rfl, select_cons (by simp), select_succ]
        exact congrArg (x :: ·) (ih xs)

/-- Those of some rows that are kept, by their numbers among the kept rows. -/
def renumber (mask : Mask) (rows : List Nat) : List Nat :=
  rows.filterMap fun i => mask.positions.idxOf? i

/-- A number among the kept rows is that of the row it was given for. -/
theorem getElem?_positions_idxOf? (mask : Mask) (i : Nat) :
    ((mask.positions.idxOf? i).bind fun r => mask.positions[r]?) =
      if mask[i]? = some true then some i else Option.none := by
  cases found : mask.positions.idxOf? i with
  | none =>
    rw [List.idxOf?_eq_none_iff, mem_positions] at found
    rw [if_neg found]
    rfl
  | some r =>
    obtain ⟨hr, at_r, -⟩ := List.idxOf?_eq_some_iff.1 found
    have at_r : mask.positions[r]? = some i := by rw [List.getElem?_eq_getElem hr, at_r]
    rw [if_pos (mem_positions.1 (List.mem_of_getElem? at_r)), Option.bind_some, at_r]

theorem select_renumber (mask : Mask) (rows : List Nat) :
    select (mask.renumber rows) mask.positions = rows.filter fun i => mask[i]? = some true := by
  show (rows.filterMap _).filterMap _ = _
  rw [List.filterMap_filterMap]
  induction rows with
  | nil => rfl
  | cons i rows ih =>
    rw [List.filterMap_cons, List.filter_cons, ih, getElem?_positions_idxOf?]
    by_cases kept : mask[i]? = some true <;> simp [kept]

/-- **Keeping rows of a selection is selecting among the kept rows.** -/
theorem keep_select {mask : Mask} {rows : List Nat} {xs : List α} (size : mask.length = xs.length)
    (h : Within xs.length rows) :
    keep (select rows mask) (select rows xs) = select (mask.renumber rows) (mask.keep xs) := by
  have within : Within xs.length mask.positions := size ▸ mask.within_positions
  rw [keep_eq_select mask, select_select within, select_renumber]
  clear within
  induction rows with
  | nil => rfl
  | cons i rows ih =>
    have hx := h i List.mem_cons_self
    have hm : i < mask.length := size ▸ hx
    have tail := ih fun j hj => h j (List.mem_cons_of_mem _ hj)
    rw [select_cons hx, select_cons hm, List.filter_cons, List.getElem?_eq_getElem hm]
    cases kept : mask[i] with
    | false => simpa [kept, keep] using tail
    | true => simpa [kept, keep, select_cons hx] using tail

/-- The kept rows of a selection are the selected ones of the kept rows. -/
theorem select_positions_select {mask : Mask} {rows : List Nat} (h : Within mask.length rows) :
    select (positions (select rows mask)) rows = select (mask.renumber rows) mask.positions := by
  have size : mask.length = (List.range mask.length).length := List.length_range.symm
  have kept := keep_select size (by rwa [List.length_range])
  rw [select_of_range h, keep_eq_select, keep_eq_select,
    select_of_range mask.within_positions] at kept
  exact kept

/-- The kept rows are numbered in their order. -/
theorem renumber_positions (mask : Mask) : mask.renumber mask.positions = List.range mask.kept := by
  have distinct : mask.positions.Nodup := (positions_pairwise mask).imp Nat.ne_of_lt
  have found : mask.renumber mask.positions =
      mask.positions.map fun i => mask.positions.idxOf i := by
    rw [renumber, ← List.filterMap_eq_map]
    refine List.filterMap_congr fun i hi => ?_
    have here : mask.positions.idxOf i < mask.positions.length := List.idxOf_lt_length_iff.2 hi
    refine List.idxOf?_eq_some_iff.2 ⟨here, List.getElem_idxOf here, fun j hj same => ?_⟩
    have twice := same.trans (List.getElem_idxOf here).symm
    exact Nat.ne_of_lt hj ((List.Nodup.getElem_inj_iff distinct).1 twice)
  rw [found, ← length_positions]
  refine List.ext_getElem (by simp) fun r hr _ => ?_
  rw [List.getElem_map, List.getElem_range]
  exact distinct.idxOf_getElem r (by simpa using hr)

/-- All rows in any order give the kept rows in some order. -/
theorem renumber_perm {mask : Mask} {rows : List Nat} (h : rows.Perm (List.range mask.length)) :
    (mask.renumber rows).Perm (List.range mask.kept) := by
  have kept_only : mask.renumber (List.range mask.length) = mask.renumber mask.positions := by
    show List.filterMap _ _ = List.filterMap _ (List.filter _ _)
    rw [List.filterMap_filter]
    refine List.filterMap_congr fun i _ => ?_
    by_cases kept : mask[i]? = some true
    · simp [kept]
    · have missing : mask.positions.idxOf? i = Option.none := by
        rw [List.idxOf?_eq_none_iff, mem_positions]
        exact kept
      simp [kept, missing]
  rw [← renumber_positions, ← kept_only]
  exact h.filterMap _

end Mask

theorem Factor.keep_eq_select (mask : Mask) (f : Factor) :
    f.keep mask = f.select mask.positions := by
  ext1
  · rfl
  · exact mask.keep_eq_select f.codes
  · rfl
  · rfl

theorem Table.keep_eq_select (mask : Mask) (t : Table) :
    t.keep mask = t.select mask.positions := by
  have columns : ∀ c : Column, c.keep mask = c.select mask.positions := by
    intro c
    cases c <;> simp only [Column.keep, Column.select, Mask.keep_eq_select, Factor.keep_eq_select]
  unfold keep select
  simp only [columns, Mask.keep_eq_select]

end ModelFormula
