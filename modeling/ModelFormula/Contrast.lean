import ModelFormula.Block
import ModelFormula.Column
import ModelFormula.Dictionary

/-!
# Treatment contrasts

A factor is coded by one indicator column for each of its levels but the base level.

* `Contrast.check` — a base is a position among at least two levels.
* `Contrast.treatment`, `Contrast.treatmentSparse` — the contrast matrix, in full and as rows of
  nonzero entries.
* `Factor.coded`, `Column.coded` — the design columns of a factor and of any column.
-/

set_option autoImplicit false

namespace ModelFormula

/-- A matrix given by the nonzero entries of its rows, each with its column. -/
structure SparseRows where
  width : Nat
  rows : List (List (Nat × Float))
  deriving DecidableEq

namespace SparseRows

/-- Where the entries of each row begin among all entries, and where the last ones end. -/
def starts (m : SparseRows) : List Nat :=
  (List.range (m.rows.length + 1)).map fun i => (m.rows.take i).flatten.length

/-- The columns of all entries. -/
def places (m : SparseRows) : List Nat := m.rows.flatten.map (·.1)

/-- All entries. -/
def values (m : SparseRows) : List Float := m.rows.flatten.map (·.2)

/-- The number in a row and a column; what is not listed is zero. -/
def entry (m : SparseRows) (row column : Nat) : Float :=
  (Dictionary.get? (m.rows.getD row []) column).getD 0.0

end SparseRows

namespace Contrast

/-- There are contrasts between at least two levels, and the base is the position of one of them,
counted from one. -/
def check (count base : Int) (column : Option String) : Except Failure Unit :=
  if count < 2 then .error (.insufficientLevels count column)
  else if 1 ≤ base ∧ base ≤ count then .ok ()
  else .error (.invalidBase count base column)

/-- The positions of the levels other than the base, counted from zero. -/
def kept (count : Nat) (base : Int) : List Nat :=
  (List.range count).filter fun k => decide ((k : Int) ≠ base - 1)

/-- One for the row of a level, zero for the others. -/
def indicator (k i : Nat) : Float := if i = k then 1.0 else 0.0

/-- The indicator columns of some levels. -/
def indicators (count : Nat) (levels : List Nat) : Block :=
  ⟨count, levels.map fun k => (List.range count).map (indicator k)⟩

/-- The indicator columns of some levels, as rows with at most one entry. -/
def indicatorRows (count : Nat) (levels : List Nat) : SparseRows where
  width := levels.length
  rows := (List.range count).map fun i =>
    match levels.idxOf? i with
    | some j => [(j, 1.0)]
    | none => []

/-- The levels that get a column: with contrasts all but the base. -/
def columnLevels (count : Int) (contrasts : Bool) (base : Int) (column : Option String) :
    Except Failure (List Nat) := do
  if contrasts then
    check count base column
    return kept count.toNat base
  else if count < 0 then throw .badValue
  else return List.range count.toNat

/-- The contrast matrix. -/
def treatment (count : Int) (contrasts : Bool) (base : Int) (column : Option String) :
    Except Failure Block := do
  let levels ← columnLevels count contrasts base column
  return indicators count.toNat levels

/-- The contrast matrix as rows of nonzero entries. -/
def treatmentSparse (count : Int) (contrasts : Bool) (base : Int) (column : Option String) :
    Except Failure SparseRows := do
  let levels ← columnLevels count contrasts base column
  return indicatorRows count.toNat levels

end Contrast

/-- The design columns of a factor: its rows of the contrast matrix. -/
def Factor.coded (f : Factor) (base : Int) (name : String) : Except Failure Block := do
  if f.hasMissing then
    throw (.dataIssue ("categorical column '" ++ name ++ "' contains missing values"))
  Contrast.check f.size base (some name)
  return ⟨f.codes.length, (Contrast.kept f.size base).map fun k =>
    f.codes.map fun c => if c = some k then 1.0 else 0.0⟩

/-- The design columns of a column: a numeric one is its own. -/
def Column.coded (c : Column) (base : Int) (name : String) : Except Failure Block :=
  match c with
  | .factor f => f.coded base name
  | c => (c.numbers name).map Block.ofColumn

end ModelFormula
