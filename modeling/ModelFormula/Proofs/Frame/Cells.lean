import Mathlib
import ModelFormula.Frame
import ModelFormula.Proofs.Double
import ModelFormula.Proofs.Factor
import ModelFormula.Proofs.Outcome

/-!
# Cells of frame columns

What a column holds row by row, whatever it is stored as.

* `Cell` — a number or a level, and `Cell.Same` — when two cells hold the same.
* `Column.cells`, `FrameColumn.cells` — the cells of a column of a table and of a frame.
* `FrameColumn.ofColumn_eq_ok` — the column of a frame holds what the column of the table holds, and
  is missing where that is.
* `FrameColumn.cells_keep`, `FrameColumn.cells_dropUnused` — keeping rows keeps their cells, and
  dropping levels changes none.
* `ModelFrame.resolve_eq_ok`, `ModelFrame.resolveAll_eq_ok` — the column of an evaluation term holds
  what its source holds.
-/

set_option autoImplicit false

namespace ModelFormula

/-- What a row of a column holds.  A missing number is undefined, a missing level is none. -/
inductive Cell where
  | number (x : Float)
  | level (v : Option Level)
  /-- What is neither, as it is written. -/
  | other (text : String)

/-- Two cells hold the same: one number, or levels of one value.  A number is the same as the level
that is this double. -/
def Cell.Same : Cell → Cell → Prop
  | .number x, .number y => x = y
  | .level v, .level w => v.map Level.canon = w.map Level.canon
  | .number x, .level v => v = some (.float x)
  | .level v, .number x => v = some (.float x)
  | .other s, .other t => s = t
  | _, _ => False

theorem Cell.same_refl (c : Cell) : c.Same c := by
  cases c <;> rfl

def Cell.isMissing : Cell → Bool
  | .number x => x.isNaN
  | .level v => v.isNone
  | .other _ => false

/-- The cell of an object. -/
def Cell.ofObject (v : Plain) : Cell :=
  if v.isMissing then .level none
  else
    match Level.ofPlain? v with
    | some w => .level (some w)
    | none => .other v.shown

/-- The cell of a value that is missing or a text. -/
def Cell.ofText : Option String → Cell
  | none => .level none
  | some s => .other s

/-- The cells of a column of a table; what is a number is one as a double. -/
def Column.cells : Column → List Cell
  | .doubles values => values.map .number
  | .ints cells => cells.map fun n => .number (floatOf Float.ofInt n)
  | .truths cells => cells.map fun b => .number (floatOf (fun b => if b then 1.0 else 0.0) b)
  | .texts _ cells => cells.map .level
  | .objects values => values.map .ofObject
  | .factor f => f.values.map .level
  | .other _ cells => cells.map .ofText

@[simp] theorem Column.length_cells (c : Column) : c.cells.length = c.length := by
  cases c <;> simp [cells, length]

namespace Column

theorem missing_ofInt (cells : List (Option Int)) :
    (cells.map (floatOf Float.ofInt)).map Float.isNaN = cells.map Option.isNone := by
  rw [List.map_map]
  refine List.map_congr_left fun n _ => ?_
  cases n with
  | none => exact Double.isNaN_missing Float.ofInt
  | some n => exact Double.isNaN_ofInt n

theorem missing_ofBool (cells : List (Option Bool)) :
    (cells.map (floatOf fun b => if b then 1.0 else 0.0)).map Float.isNaN =
      cells.map Option.isNone := by
  rw [List.map_map]
  refine List.map_congr_left fun b _ => ?_
  rcases b with _ | _ | _ <;> decide +kernel

/-- An object that can be looked up is missing or a level. -/
theorem ofObject_eq {v : Plain} (h : v.hashable = true) : Cell.ofObject v = .level (cellOf v) := by
  unfold Cell.ofObject cellOf
  split
  · rfl
  · rename_i present
    cases v with
    | null => exact absurd rfl present
    | nan _ => exact absurd rfl present
    | list _ => cases h
    | dict _ => cases h
    | _ => rfl

/-- So are all cells of a column whose objects can be looked up. -/
theorem cells_objects {values : List Plain} (h : values.all Plain.hashable = true) :
    (objects values).cells = (values.map cellOf).map .level := by
  rw [List.map_map]
  exact List.map_congr_left fun v hv => ofObject_eq (List.all_eq_true.1 h v hv)

theorem isMissing_ofObject (v : Plain) : (Cell.ofObject v).isMissing = v.isMissing := by
  unfold Cell.ofObject
  split
  · rename_i missing
    rw [missing]
    rfl
  · rename_i present
    rw [Bool.not_eq_true] at present
    rw [present]
    cases Level.ofPlain? v <;> rfl

/-- A row is missing exactly where its cell is. -/
theorem missing_eq_cells (c : Column) : c.missing = c.cells.map Cell.isMissing := by
  cases c with
  | doubles values => simp [missing, cells, Cell.isMissing, Function.comp_def]
  | ints cells =>
    rw [missing, ← missing_ofInt]
    simp [Column.cells, Cell.isMissing, Function.comp_def]
  | truths cells =>
    rw [missing, ← missing_ofBool]
    simp [Column.cells, Cell.isMissing, Function.comp_def]
  | texts storage cells => simp [missing, Column.cells, Cell.isMissing, Function.comp_def]
  | objects values => simp [missing, cells, isMissing_ofObject]
  | other storage cells =>
    have each : ∀ cell : Option String, (Cell.ofText cell).isMissing = cell.isNone := by
      intro cell
      cases cell <;> rfl
    simp [missing, Column.cells, each]
  | factor f =>
    rw [missing, ← Factor.values_isNone]
    simp [Column.cells, Cell.isMissing, Function.comp_def]

end Column

namespace FrameColumn

/-- The cells of a column of a frame. -/
def cells : FrameColumn → List Cell
  | .numeric values => values.map .number
  | .factor f => f.values.map .level

@[simp] theorem length_missing (c : FrameColumn) : c.missing.length = c.cells.length := by
  cases c <;> simp [missing, cells]

theorem cells_keep (mask : Mask) (c : FrameColumn) : (c.keep mask).cells = mask.keep c.cells := by
  cases c with
  | numeric values => simp only [keep, cells, Mask.keep_map]
  | factor f => simp only [keep, cells, Factor.values_keep, Mask.keep_map]

theorem cells_dropUnused (c : FrameColumn) : c.dropUnused.cells = c.cells := by
  cases c with
  | numeric values => rfl
  | factor f => simp only [dropUnused, cells, Factor.values_dropUnused]

/-! ## Columns of tables -/

/-- The factor of mixed values holds them, or equal ones. -/
theorem same_ofMixed (cells : List (Option Level)) :
    List.Forall₂ Cell.Same ((Factor.ofMixed cells).values.map .level) (cells.map .level) ∧
      (Factor.ofMixed cells).codes.map Option.isNone = cells.map Option.isNone := by
  have values := Factor.values_ofMixed cells
  constructor
  · have pointwise : List.Forall₂ Eq ((Factor.ofMixed cells).values.map (Option.map Level.canon))
        (cells.map (Option.map Level.canon)) := by
      rw [values]
      exact List.forall₂_refl _
    rw [List.forall₂_map_left_iff, List.forall₂_map_right_iff] at pointwise
    rw [List.forall₂_map_left_iff, List.forall₂_map_right_iff]
    exact pointwise
  · have marks : ∀ vs : List (Option Level),
        vs.map Option.isNone = (vs.map (Option.map Level.canon)).map Option.isNone := by
      intro vs
      simp [Function.comp_def]
    rw [← Factor.values_isNone, marks, values, ← marks]

/-- **A column of a frame holds what the column of the table holds**, and is missing where it is.
The levels of a factor of doubles are not even replaced by equal ones. -/
theorem ofColumn_eq_ok {textsAsFactors : Bool} {name : String} {c : Column} {column : FrameColumn}
    (h : ofColumn textsAsFactors name c = .ok column) :
    List.Forall₂ Cell.Same column.cells c.cells ∧ column.missing = c.missing ∧
      ∀ f, column = .factor f → f.kind = .floating → column.cells = c.cells := by
  have same : ∀ cells : List Cell, List.Forall₂ Cell.Same cells cells := fun cells =>
    List.forall₂_same.2 fun cell _ => cell.same_refl
  cases c with
  | factor f =>
    cases h
    exact ⟨same _, rfl, fun _ _ _ => rfl⟩
  | doubles values =>
    cases h
    exact ⟨same _, rfl, fun _ _ _ => rfl⟩
  | ints cells =>
    cases h
    refine ⟨?_, Column.missing_ofInt cells, fun f factor => by cases factor⟩
    show List.Forall₂ Cell.Same ((cells.map _).map _) (cells.map _)
    rw [List.map_map]
    exact same _
  | truths cells =>
    cases h
    refine ⟨?_, Column.missing_ofBool cells, fun f factor => by cases factor⟩
    show List.Forall₂ Cell.Same ((cells.map _).map _) (cells.map _)
    rw [List.map_map]
    exact same _
  | texts storage cells =>
    cases textsAsFactors with
    | false => cases h
    | true =>
      cases h
      obtain ⟨held, missing⟩ := same_ofMixed cells
      refine ⟨held, missing, fun f factor floating => ?_⟩
      cases factor
      cases floating
  | objects values =>
    cases textsAsFactors with
    | false => cases h
    | true =>
      unfold ofColumn at h
      simp only [Bool.not_true, Bool.false_eq_true, if_false] at h
      split at h
      · rename_i hashable
        cases h
        have cells_eq := Column.cells_objects hashable
        obtain ⟨held, missing⟩ := same_ofMixed (values.map Column.cellOf)
        refine ⟨cells_eq ▸ held, ?_, fun f factor floating => ?_⟩
        · rw [Column.missing_eq_cells, cells_eq, List.map_map]
          exact missing
        · cases factor
          cases floating
      · cases h
  | other storage cells => cases h

end FrameColumn

/-! ## Evaluation terms -/

namespace ModelFrame

/-- The column that an evaluation term stands for: the one of its name, else what the evaluator
gives. -/
def sourceColumn (options : Options) (table : Table) : Node → Except Failure Column
  | .symbol name => table.column name
  | node => (options.evaluator node table).outcome

/-- A column of a frame holds, in all rows of a table, what an evaluation term stands for. -/
structure Resolves (options : Options) (table : Table) (node : Node) (column : FrameColumn)
    (source : Column) : Prop where
  source_eq : sourceColumn options table node = .ok source
  length : source.length = table.rows
  cells : List.Forall₂ Cell.Same column.cells source.cells
  missing : column.missing = source.missing
  exact : ∀ f, column = .factor f → f.kind = .floating → column.cells = source.cells

/-- **A resolved column holds what its source holds.** -/
theorem resolve_eq_ok {options : Options} {table : Table} {node : Node} {column : FrameColumn}
    (h : (resolve options table node).outcome = .ok column) :
    ∃ source, Resolves options table node column source := by
  cases node with
  | symbol name =>
    obtain ⟨source, found, h⟩ := Journal.outcome_bind_eq_ok.1 h
    obtain ⟨same, missing, exact⟩ := FrameColumn.ofColumn_eq_ok h
    exact ⟨source, found, Table.length_of_column found, same, missing, exact⟩
  | _ =>
    obtain ⟨source, found, h⟩ := Journal.outcome_bind_eq_ok.1 h
    split at h
    · rename_i length
      obtain ⟨same, missing, exact⟩ := FrameColumn.ofColumn_eq_ok h
      exact ⟨source, found, length, same, missing, exact⟩
    · cases h

/-- The columns of evaluation terms are those that are resolved, under their texts. -/
theorem resolved_of_resolveAll {options : Options} {table : Table} {nodes : List Node}
    {columns : List (String × FrameColumn)}
    (h : (resolveAll options table nodes).outcome = .ok columns) :
    List.Forall₂ (fun node c => c.1 = node.text ∧ (resolve options table node).outcome = .ok c.2)
      nodes columns := by
  induction nodes generalizing columns with
  | nil =>
    cases h
    exact .nil
  | cons node nodes ih =>
    obtain ⟨column, head, h⟩ := Journal.outcome_bind_eq_ok.1 h
    obtain ⟨rest, tail, h⟩ := Journal.outcome_bind_eq_ok.1 h
    cases h
    exact .cons ⟨rfl, head⟩ (ih tail)

/-- Every evaluation term has its column, under its text. -/
theorem resolveAll_eq_ok {options : Options} {table : Table} {nodes : List Node}
    {columns : List (String × FrameColumn)}
    (h : (resolveAll options table nodes).outcome = .ok columns) :
    List.Forall₂ (fun node c => c.1 = node.text ∧ ∃ source,
      Resolves options table node c.2 source) nodes columns :=
  (resolved_of_resolveAll h).imp fun _ _ entry => ⟨entry.1, resolve_eq_ok entry.2⟩

end ModelFrame

end ModelFormula
