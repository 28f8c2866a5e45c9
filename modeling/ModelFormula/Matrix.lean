import ModelFormula.Coefficient

/-!
# Model matrices

The model matrix of a frame has a column of ones for the intercept and, for every term that is not a
grouping, the coded columns of its evaluation term or the products of those of its two.

* `ModelMatrix.build` — the matrix, which term each column comes from, and the names of the columns
  where all have one.
* `ModelMatrix.termColumns` — the columns of a term.
* `ModelMatrix.exported` — the matrix in single precision.
-/

set_option autoImplicit false

namespace ModelFormula

structure ModelMatrix where
  block : Block
  precision : Precision
  /-- For every column its term, counted from one; zero is the intercept. -/
  assign : List Nat
  names : Option (List String)

namespace ModelMatrix

/-- The nearest number of a precision. -/
def round : Precision → Float → Float
  | .single => roundToSingle
  | .double => id

/-- The design columns of an evaluation term. -/
def codedTerm (frame : ModelFrame) (base : Int) (node : Node) : Except Failure Block := do
  let column ← frame.column node
  column.coded base node.text

/-- The evaluation terms that a term uses which is not a grouping, in the order of the vocabulary. -/
def usedTerms (terms : TermsTable) : List Node :=
  terms.termsWhere fun marks => terms.fixedTerms.any fun p => marks.getD p.1 false

/-- The columns of a term: those of its evaluation term, or the products of those of its two. -/
def termBlock (frame : ModelFrame) (base : Int) (column : Nat) (term : Node) :
    Except Failure Block :=
  match frame.terms.evaluationTermsAt column with
  | [] => .error (.invalidTerm term.text "term does not reference any evaluation term" [])
  | [a] => codedTerm frame base a
  | [a, b] => do
    let first ← codedTerm frame base a
    let second ← codedTerm frame base b
    return first.expand second
  | nodes => .error (.interactionOrder term.text nodes.length)

/-- Codes terms in their order; the first failure is the result. -/
def codeAll (code : Node → Except Failure Block) : List Node → Except Failure (List Block)
  | [] => .ok []
  | node :: nodes => do
    let block ← code node
    let blocks ← codeAll code nodes
    return block :: blocks

/-- The columns of the terms that are not groupings. -/
def termBlocks (frame : ModelFrame) (base : Int) :
    List (Nat × Node) → Except Failure (List Block)
  | [] => .ok []
  | (column, term) :: rest => do
    let block ← termBlock frame base column term
    let blocks ← termBlocks frame base rest
    return block :: blocks

/-- Every evaluation term is coded before any term is built. -/
def fixedBlocks (frame : ModelFrame) (base : Int) : Except Failure (List Block) := do
  let _ ← codeAll (codedTerm frame base) (usedTerms frame.terms)
  termBlocks frame base frame.terms.fixedTerms

/-- The terms of the columns of blocks, counted from `first`. -/
def assignment (first : Nat) (blocks : List Block) : List Nat :=
  (blocks.zipIdx first).flatMap fun p => List.replicate p.1.width p.2

/-- The blocks of all columns with the number of the first one: zero where there is an intercept. -/
def withIntercept (frame : ModelFrame) (blocks : List Block) : Nat × List Block :=
  if frame.terms.intercept then (0, Block.ones frame.rows :: blocks) else (1, blocks)

/-- The names of the columns; that there are none is noted in the log. -/
def columnNames (frame : ModelFrame) (base : Int) : Journal (Option (List String)) :=
  match frame.coefficientNames base with
  | .ok names => pure (some names)
  | .error (.invalidTerm _ reason _) => do
    Journal.record
      { logger := "ModelMatrixBuilder", method := .debug
        message := "No column names for model matrix", facts := [("reason", reason)] }
    return none
  | .error e => Journal.fail e

/-- What is logged about a matrix. -/
def entry (m : ModelMatrix) (terms : TermsTable) : Entry where
  logger := "ModelMatrixBuilder"
  method := .debug
  message := "Built model matrix"
  facts :=
    [("shape", tupleText [toString m.block.height, toString m.block.width]),
      ("n_terms", toString terms.fixedTerms.length),
      ("intercept", (Plain.bool terms.intercept).shown)]

/-- Builds the model matrix of a frame. -/
def build (settings : Settings) (frame : ModelFrame) : Journal ModelMatrix := do
  let base := settings.contrasts.base
  let precision := settings.matrix.precision
  let blocks ← fixedBlocks frame base
  let (first, blocks) := withIntercept frame blocks
  let names ← columnNames frame base
  let matrix : ModelMatrix :=
    { block := (Block.beside frame.rows blocks).map (round precision), precision
      assign := assignment first blocks, names }
  Journal.record (matrix.entry frame.terms)
  return matrix

/-- The columns of a term, counted from one; zero is the intercept. -/
def termColumns (m : ModelMatrix) (term : Int) : List Nat :=
  (m.assign.zipIdx.filter fun p => (p.1 : Int) == term).map (·.2)

/-- The numbers of the matrix in single precision, which is the only one exported. -/
def exported (m : ModelMatrix) : Block := m.block.map roundToSingle

end ModelMatrix

end ModelFormula
