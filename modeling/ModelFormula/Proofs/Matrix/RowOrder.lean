import ModelFormula.Proofs.Frame.Rows
import ModelFormula.Proofs.Matrix.Assembly
import ModelFormula.Proofs.Matrix.Transport

/-!
# The order of rows

With the rows of the table in another order the frame, the matrix and the response have theirs in that
order, and all else is the same: no level, base or name depends on which row comes first.

* `Block.select`, `ModelFrame.Response.select` — the rows of a design at some positions.
* `FrameColumn.coded_select` — coding a column works row by row.
* `ModelFrame.Reordered` — a frame with its rows in another order;
  `ModelFrame.Reordered.transports` — its blocks are in this order, too.
* `ModelMatrix.ReorderedDesigns` — what becomes of matrices, names and responses.
* `ModelFrame.build_reordered` — frames and designs of a table with its rows in another order.
-/

set_option autoImplicit false

namespace ModelFormula

variable {rows : List Nat}

/-! ## Columns -/

theorem Factor.hasMissing_select {f : Factor} (perm : rows.Perm (List.range f.codes.length)) :
    (f.select rows).hasMissing = f.hasMissing := by
  rw [Bool.eq_iff_iff]
  unfold hasMissing
  rw [List.contains_iff_mem, List.contains_iff_mem]
  exact (select_perm perm).mem_iff

/-- The rows of a block at some positions. -/
def Block.select (rows : List Nat) (b : Block) : Block :=
  ⟨rows.length, b.columns.map (ModelFormula.select rows)⟩

/-- The rows of a response at some positions. -/
def ModelFrame.Response.select (rows : List Nat) : ModelFrame.Response → ModelFrame.Response
  | .numbers values => .numbers (ModelFormula.select rows values)
  | .levels cells => .levels (ModelFormula.select rows cells)

namespace FrameColumn

/-- Coding a column works row by row, and what it fails for does not depend on the order of rows. -/
theorem coded_select {c : FrameColumn} (perm : rows.Perm (List.range c.missing.length)) (base : Int)
    (name : String) : (c.select rows).coded base name = Block.select rows <$> c.coded base name := by
  cases c with
  | numeric values =>
    have within : Within values.length rows := by
      simpa [missing] using within_of_perm perm
    have height : (ModelFormula.select rows values).length = rows.length := length_select within
    show Except.ok (Block.ofColumn _) = .ok (Block.select rows (.ofColumn values))
    unfold Block.ofColumn Block.select
    rw [height]
    rfl
  | factor f =>
    have perm : rows.Perm (List.range f.codes.length) := by simpa [missing] using perm
    have height : (ModelFormula.select rows f.codes).length = rows.length :=
      length_select (within_of_perm perm)
    show (f.select rows).coded base name = Block.select rows <$> f.coded base name
    unfold Factor.coded
    rw [Factor.hasMissing_select perm]
    have size : (f.select rows).size = f.size := rfl
    have codes : (f.select rows).codes = ModelFormula.select rows f.codes := rfl
    rw [size, codes, height]
    split
    · rfl
    · cases Contrast.check f.size base (some name) with
      | error e => rfl
      | ok u =>
        refine congrArg (fun columns => Except.ok (Block.mk rows.length columns)) ?_
        rw [List.map_map]
        refine List.map_congr_left fun k _ => ?_
        exact (select_map _ rows f.codes).symm

theorem response_select {c : FrameColumn} (perm : rows.Perm (List.range c.missing.length)) :
    ModelFrame.Response.ofColumn (c.select rows) = (ModelFrame.Response.ofColumn c).select rows := by
  cases c with
  | numeric values => rfl
  | factor f =>
    have perm : rows.Perm (List.range f.codes.length) := by simpa [missing] using perm
    have kind : (f.select rows).kind = f.kind := rfl
    show ModelFrame.Response.ofColumn (.factor (f.select rows)) = _
    unfold ModelFrame.Response.ofColumn
    simp only [kind, Factor.hasMissing_select perm, Factor.values_select, ← select_map]
    cases f.kind with
    | floating => rfl
    | whole => cases f.hasMissing <;> rfl
    | mixed => rfl

theorem levels?_select (rows : List Nat) (c : FrameColumn) : (c.select rows).levels? = c.levels? := by
  cases c <;> rfl

end FrameColumn

/-! ## Blocks -/

namespace Block

theorem select_expand {a b : Block} (ha : a.WellShaped) (hb : b.WellShaped)
    (heights : a.height = b.height) :
    (a.expand b).select rows = (a.select rows).expand (b.select rows) := by
  refine congrArg (Block.mk rows.length) ?_
  show (a.columns.flatMap fun u => b.columns.map fun v => times u v).map _ =
    (a.columns.map _).flatMap fun u => (b.columns.map _).map fun v => times u v
  rw [List.map_flatMap, List.flatMap_map]
  refine List.flatMap_congr fun u hu => ?_
  rw [List.map_map, List.map_map]
  refine List.map_congr_left fun v hv => ?_
  exact select_zipWith _ rows ((ha u hu).trans (heights.trans (hb v hv).symm))

theorem movesRows_select {n : Nat} (perm : rows.Perm (List.range n)) :
    MovesRows n rows.length (select rows) := by
  constructor
  · intro b
    exact List.length_map _
  · show Block.mk rows.length [ModelFormula.select rows (List.replicate n 1.0)] = _
    rw [select_replicate (within_of_perm perm)]
    rfl
  · intro blocks
    refine congrArg (Block.mk rows.length) ?_
    show (blocks.flatMap columns).map _ = (blocks.map (select rows)).flatMap columns
    rw [List.map_flatMap, List.flatMap_map]
    rfl
  · intro f b
    refine congrArg (Block.mk rows.length) ?_
    show (b.columns.map _).map _ = (b.columns.map _).map _
    rw [List.map_map, List.map_map]
    refine List.map_congr_left fun c _ => ?_
    exact (select_map f rows c).symm

end Block

/-! ## Frames -/

namespace ModelFrame

/-- Row `r` of `after` is row `rows[r]` of `before`, and both are one row of the table of `before`,
the table of `after` having the rows of that one in the given order. -/
structure Reordered (order rows : List Nat) (before after : ModelFrame) : Prop where
  perm : rows.Perm (List.range before.rows)
  origin : ModelFormula.select after.retained.positions order =
    ModelFormula.select rows before.retained.positions
  retained : after.retained = ModelFormula.select order before.retained
  terms : after.terms = before.terms
  columns : after.columns = before.columns.map fun c => (c.1, c.2.select rows)
  index : after.index = ModelFormula.select rows before.index

variable {order : List Nat} {before after : ModelFrame}

/-- If all rows of the table are selected, no level is lost. -/
theorem reordered_select (tidy : before.Tidy)
    (perm : order.Perm (List.range before.retained.length)) :
    Reordered order (before.retained.renumber order) before (before.select order) := by
  have rows_perm : (before.retained.renumber order).Perm (List.range before.rows) :=
    tidy.rows ▸ Mask.renumber_perm perm
  refine ⟨rows_perm, ?_, rfl, rfl, ?_, rfl⟩
  · exact Mask.select_positions_select (within_of_perm perm)
  · refine List.map_congr_left fun c hc => ?_
    have rows_perm : (before.retained.renumber order).Perm (List.range c.2.missing.length) :=
      (tidy.lengths c hc).symm ▸ rows_perm
    rw [FrameColumn.select_dropUnused_of_perm rows_perm, tidy.pruned c hc]

theorem column_mem {frame : ModelFrame} {node : Node} {c : FrameColumn}
    (found : frame.column node = .ok c) : (node.text, c) ∈ frame.columns :=
  Dictionary.mem_of_get? (column_eq_ok found)

theorem Tidy.rectangular {frame : ModelFrame} (tidy : frame.Tidy) :
    ModelMatrix.Rectangular frame := by
  intro node c found
  rw [← FrameColumn.length_missing]
  exact tidy.lengths _ (column_mem found)

namespace Reordered

theorem column (h : Reordered order rows before after) (node : Node) :
    after.column node = FrameColumn.select rows <$> before.column node := by
  unfold ModelFrame.column
  rw [h.columns]
  cases node.render with
  | error e => rfl
  | ok text =>
    have moved := Dictionary.get?_map (FrameColumn.select rows) before.columns text
    cases found : before.columns.get? text with
    | none =>
      rw [found] at moved
      simp only [bind, Except.bind, found, moved, Option.map_none]
      rfl
    | some c =>
      rw [found] at moved
      simp only [bind, Except.bind, found, moved, Option.map_some]
      rfl

theorem rows_eq (h : Reordered order rows before after) : after.rows = rows.length := by
  unfold ModelFrame.rows
  rw [h.index]
  exact length_select (within_of_perm h.perm)

/-- **The blocks are in the order of the rows.** -/
theorem transports (h : Reordered order rows before after) (tidy : before.Tidy) :
    ModelMatrix.Transports (Block.select rows) before after := by
  have rect := tidy.rectangular
  refine ⟨h.terms, ?_, ?_, ?_⟩
  · intro base node _
    unfold ModelMatrix.codedTerm
    rw [h.column]
    cases found : before.column node with
    | error e => rfl
    | ok c =>
      refine FrameColumn.coded_select ?_ base node.text
      rw [tidy.lengths _ (column_mem found)]
      exact h.perm
  · intro node _
    rw [h.column]
    cases before.column node with
    | error e => rfl
    | ok c => exact congrArg Except.ok (c.levels?_select rows)
  · intro base first second a b ha hb
    obtain ⟨shaped, height⟩ := ModelMatrix.codedTerm_wellShaped rect ha
    obtain ⟨shaped', height'⟩ := ModelMatrix.codedTerm_wellShaped rect hb
    exact Block.select_expand shaped shaped' (height.trans height'.symm)

end Reordered

end ModelFrame

namespace ModelMatrix

/-- The matrices and the response of `after` have the given rows of those of `before`, with the same
assignment and names, or both fail for the same reason. -/
structure ReorderedDesigns (rows : List Nat) (before after : ModelFrame) : Prop where
  matrix : ∀ settings, (build settings after).outcome =
    (fun m : ModelMatrix => { m with block := m.block.select rows }) <$>
      (build settings before).outcome
  names : ∀ base, after.coefficientNames base = before.coefficientNames base
  response : after.response = ModelFrame.Response.select rows <$> before.response

theorem reorderedDesigns {order : List Nat} {before after : ModelFrame}
    (h : ModelFrame.Reordered order rows before after) (tidy : before.Tidy) :
    ReorderedDesigns rows before after := by
  have transports := h.transports tidy
  refine ⟨transports.build ?_, transports.coefficientNames, ?_⟩
  · rw [h.rows_eq]
    exact Block.movesRows_select h.perm
  · unfold ModelFrame.response
    rw [h.terms]
    split
    · rfl
    · rename_i node _
      rw [h.column]
      cases found : before.column node with
      | error e => rfl
      | ok c =>
        refine congrArg Except.ok (FrameColumn.response_select ?_)
        rw [tidy.lengths _ (ModelFrame.column_mem found)]
        exact h.perm

end ModelMatrix

namespace ModelFrame

/-- **The order of rows does not matter.**  On a table with its rows in another order building the
frame of a formula fails for the same reason, or it gives the frame with its rows in that order; then
the matrices and the response have theirs in that order, too. -/
theorem build_reordered {t : Table} {order : List Nat} (texts : t.TextsOnly)
    (perm : order.Perm (List.range t.rows)) (formula : Node) :
    (∀ e, (build {} formula (.table (t.select order))).outcome = .error e ↔
        (build {} formula (.table t)).outcome = .error e) ∧
      ∀ before, (build {} formula (.table t)).outcome = .ok before → ∃ rows after,
        (build {} formula (.table (t.select order))).outcome = .ok after ∧
        Reordered order rows before after ∧ ModelMatrix.ReorderedDesigns rows before after := by
  have part := build_select rowwise_default rfl texts (within_of_perm perm) formula
  constructor
  · intro e
    rw [part, map_eq_error]
  · intro before built
    have tidy := tidy_of_build rfl built
    have reordered := reordered_select tidy (length_retained_of_build built ▸ perm)
    refine ⟨_, _, ?_, reordered, ModelMatrix.reorderedDesigns reordered tidy⟩
    rw [part, built]
    rfl

/-- A table with a text missing in its second row. -/
def visitTable : Table where
  columns :=
    [(.text "y", .texts .string [some (.text "yes"), none, some (.text "yes"), some (.text "yes")]),
      (.text "x", .ints [some 4, some 1, some 3, some 2]),
      (.text "g", .factor (.code [.text "first", .text "second", .text "later"] (by decide) false
        [some (.text "later"), some (.text "second"), some (.text "first"),
          some (.text "later")]))]
  index := [.text "i", .text "j", .text "k", .text "l"]
  length_eq := by decide

/-- The formula `y ~ x&g`. -/
def visitFormula : Node := .formula (some (.var "y")) (.app "&" [.var "x", .var "g"])

theorem build_reordered_visitTable : ∃ before rows after,
    (build {} visitFormula (.table visitTable)).outcome = .ok before ∧
    (build {} visitFormula (.table (visitTable.select [3, 1, 0, 2]))).outcome = .ok after ∧
    before.retained = [true, false, true, true] ∧ after.retained = [true, false, true, true] ∧
    Reordered [3, 1, 0, 2] rows before after ∧ ModelMatrix.ReorderedDesigns rows before after := by
  have kept : ModelFrame.retained <$> (build {} visitFormula (.table visitTable)).outcome =
      .ok [true, false, true, true] := by
    decide +kernel
  obtain ⟨before, built, kept⟩ := map_eq_ok.1 kept
  have perm : [3, 1, 0, 2].Perm (List.range visitTable.rows) := by decide
  obtain ⟨-, moved⟩ := build_reordered (by decide) perm visitFormula
  obtain ⟨rows, after, built', reordered, designs⟩ := moved before built
  refine ⟨before, rows, after, built, built', kept, ?_, reordered, designs⟩
  rw [reordered.retained, kept]
  rfl

end ModelFrame

end ModelFormula
