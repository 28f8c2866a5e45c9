import ModelFormula.Shape

/-!
# Column blocks

A block is a piece of a design matrix: columns of numbers, all of one height.

* `Block.beside` — the columns of several blocks, from left to right.
* `Block.expand` — the products of the columns of two blocks, row by row; the columns of the first
  vary slowest.
* `Block.expandArrays` — the same for arrays of any shape, with what is refused.
-/

set_option autoImplicit false

namespace ModelFormula

structure Block where
  height : Nat
  columns : List (List Float)
  deriving DecidableEq

namespace Block

/-- All columns are as long as the block is high. -/
def WellShaped (b : Block) : Prop := ∀ c ∈ b.columns, c.length = b.height

/-- The number of columns. -/
def width (b : Block) : Nat := b.columns.length

/-- The block of a single column. -/
def ofColumn (xs : List Float) : Block := ⟨xs.length, [xs]⟩

/-- A single column of ones. -/
def ones (n : Nat) : Block := ⟨n, [List.replicate n 1.0]⟩

/-- The columns of several blocks of one height. -/
def beside (height : Nat) (blocks : List Block) : Block := ⟨height, blocks.flatMap columns⟩

/-- The number in a row and a column. -/
def entry (b : Block) (row column : Nat) : Float := (b.columns.getD column []).getD row 0.0

/-- The rows of numbers. -/
def rows (b : Block) : List (List Float) :=
  (List.range b.height).map fun r => b.columns.map fun c => c.getD r 0.0

/-- A function of every number. -/
def map (f : Float → Float) (b : Block) : Block := ⟨b.height, b.columns.map (List.map f)⟩

/-- The product of two columns, row by row. -/
def times (xs ys : List Float) : List Float := List.zipWith (· * ·) xs ys

/-- The products of the columns of two blocks, the columns of the first varying slowest. -/
def expand (a b : Block) : Block :=
  ⟨a.height, a.columns.flatMap fun u => b.columns.map fun v => times u v⟩

theorem length_rows (b : Block) : b.rows.length = b.height := by simp [rows]

theorem entry_of_column {b : Block} {j : Nat} {c : List Float} (h : b.columns[j]? = some c)
    (r : Nat) : b.entry r j = c.getD r 0.0 := by
  have column : b.columns.getD j [] = c := by
    rw [List.getD_eq_getElem?_getD, h, Option.getD_some]
  rw [entry, column]

/-! ## Tables of a function -/

section Tables

variable {α β : Type} {marks : List α} {items : List β} {f : α → β → Float} {n : Nat}

/-- The number in a row and a column of the table of a function. -/
theorem entry_table {r j : Nat} {x : β} {m : α} (hr : items[r]? = some x)
    (hj : marks[j]? = some m) :
    (⟨n, marks.map fun m => items.map (f m)⟩ : Block).entry r j = f m x := by
  have column : (marks.map fun m => items.map (f m))[j]? = some (items.map (f m)) := by
    rw [List.getElem?_map, hj, Option.map_some]
  rw [entry_of_column column, List.getD_eq_getElem?_getD, List.getElem?_map, hr, Option.map_some,
    Option.getD_some]

/-- The rows of the table of a function. -/
theorem rows_table (h : items.length = n) :
    (⟨n, marks.map fun m => items.map (f m)⟩ : Block).rows =
      items.map fun x => marks.map fun m => f m x := by
  subst h
  refine List.ext_getElem (by rw [length_rows, List.length_map]) fun r hr _ => ?_
  have hr : r < items.length := by rwa [length_rows] at hr
  simp [rows, hr]

end Tables

theorem wellShaped_ones (n : Nat) : (ones n).WellShaped := by simp [ones, WellShaped]

theorem wellShaped_beside {height : Nat} {blocks : List Block}
    (h : ∀ b ∈ blocks, b.WellShaped ∧ b.height = height) : (beside height blocks).WellShaped := by
  intro c hc
  obtain ⟨b, hb, hc⟩ := List.mem_flatMap.1 hc
  exact ((h b hb).1 c hc).trans (h b hb).2

theorem wellShaped_expand {a b : Block} (ha : a.WellShaped) (hb : b.WellShaped)
    (h : a.height = b.height) : (expand a b).WellShaped := by
  intro c hc
  obtain ⟨u, hu, hc⟩ := List.mem_flatMap.1 hc
  obtain ⟨v, hv, rfl⟩ := List.mem_map.1 hc
  have hl := ha u hu
  have hr := (hb v hv).trans h.symm
  simp [times, hl, hr, expand]

/-! ## Arrays -/

/-- One-dimensional arrays count as a single column. -/
def asColumns (a : NumericArray) : NumericArray :=
  match a.shape with
  | [n] => ⟨[n, 1], a.values⟩
  | _ => a

/-- The block of an array with two dimensions. -/
def ofArray (height width : Nat) (values : List Float) : Block :=
  ⟨height, (List.range width).map fun j =>
    (List.range height).map fun r => values.getD (r * width + j) 0.0⟩

/-- The products of the columns of two arrays, which must have one or two dimensions and the same
number of rows. -/
def expandArrays (a b : NumericArray) : Except Failure Block := do
  let a := asColumns a
  let b := asColumns b
  ShapeRule.check { minDims := some 2, maxDims := some 2 } "left block" a.shape
  match a.shape with
  | [n, p] =>
    ShapeRule.check { sizes := some [some n, none] } "right block" b.shape
    match b.shape with
    | [m, q] => return expand (ofArray n p a.values) (ofArray m q b.values)
    | _ => throw .badValue
  | _ => throw .badValue

end Block

end ModelFormula
