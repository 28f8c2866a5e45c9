import ModelFormula.Contrast
import ModelFormula.Dictionary
import ModelFormula.Evaluation
import ModelFormula.Settings
import ModelFormula.Term.Table

/-!
# Model frames

A model frame holds one column for each evaluation term of a formula, for the rows that are kept.

* `FrameColumn` — a numeric column or a factor.
* `Evaluator` — what gives the column of an expression that is not a name.
* `ModelFrame.build` — resolves the evaluation terms against a table, keeps the rows that the
  policy for missing values keeps, and drops the levels that no longer occur.
* `ModelFrame.response` — the column of the left-hand side.
-/

set_option autoImplicit false

namespace ModelFormula

inductive FrameColumn where
  /-- The undefined number is missing. -/
  | numeric (values : List Float)
  | factor (f : Factor)

namespace FrameColumn

/-- Texts and objects become factors if that is asked for, and then every object must be one that can
be looked up; other columns must be numeric. -/
def ofColumn (textsAsFactors : Bool) (name : String) (c : Column) : Except Failure FrameColumn :=
  match c with
  | .factor f => .ok (.factor f)
  | .texts storage cells =>
    if textsAsFactors then .ok (.factor (.ofMixed cells))
    else .error (Column.notNumeric name storage.name)
  | .objects values =>
    if !textsAsFactors then .error (Column.notNumeric name Column.objectStorage)
    else if values.all Plain.hashable then .ok (.factor (.ofMixed (values.map Column.cellOf)))
    else .error .wrongKind
  | c => (c.numbers name).map .numeric

def missing : FrameColumn → List Bool
  | .numeric values => values.map Float.isNaN
  | .factor f => f.codes.map Option.isNone

def keep (mask : Mask) : FrameColumn → FrameColumn
  | .numeric values => .numeric (mask.keep values)
  | .factor f => .factor (f.keep mask)

def dropUnused : FrameColumn → FrameColumn
  | .numeric values => .numeric values
  | .factor f => .factor f.dropUnused

def isFactor : FrameColumn → Bool
  | .numeric _ => false
  | .factor _ => true

/-- The levels of a factor. -/
def levels? : FrameColumn → Option (List Level)
  | .numeric _ => none
  | .factor f => some f.levels

/-- The design columns of a frame column. -/
def coded (base : Int) (name : String) : FrameColumn → Except Failure Block
  | .numeric values => .ok (.ofColumn values)
  | .factor f => f.coded base name

end FrameColumn

/-- Gives the column of an expression that is not a name. -/
abbrev Evaluator := Node → Table → Journal Column

/-- The evaluator that knows the functions of a registry. -/
def Evaluator.ofRegistry (registry : Registry) : Evaluator := fun node table =>
  Column.doubles <$> evaluateColumn registry node (.table table)

/-- Which rows are kept in view of missing values. -/
inductive MissingPolicy where
  | omitIncomplete
  | keepAll
  | dropAll
  deriving DecidableEq, Repr

/-- The mask of a policy over `n` rows with the given marks of missing values. -/
def MissingPolicy.mask (policy : MissingPolicy) (n : Nat) (missing : List (List Bool)) : Mask :=
  match policy with
  | .omitIncomplete => .complete n missing
  | .keepAll => .all n
  | .dropAll => .none n

structure ModelFrame where
  terms : TermsTable
  /-- The columns, each under the text of its evaluation term. -/
  columns : Dictionary String FrameColumn
  /-- The labels of the kept rows. -/
  index : List Plain
  /-- Which rows of the table were kept. -/
  retained : Mask

namespace ModelFrame

/-- How a frame is built. -/
structure Options where
  settings : FrameSettings := {}
  evaluator : Evaluator := .ofRegistry .standard
  missing : MissingPolicy := .omitIncomplete

/-! ## Building -/

/-- The column of an evaluation term, with one item for every row. -/
def resolve (options : Options) (table : Table) (node : Node) : Journal FrameColumn :=
  match node with
  | .symbol name => do
    let column ← table.column name
    FrameColumn.ofColumn options.settings.textsAsFactors node.text column
  | node => do
    let column ← options.evaluator node table
    if column.length = table.rows then FrameColumn.ofColumn false node.text column
    else
      Journal.fail (.dataIssue ("'" ++ node.text ++ "' evaluated to " ++ toString column.length ++
        " values for " ++ toString table.rows ++ " rows"))

/-- The columns of evaluation terms, in their order. -/
def resolveAll (options : Options) (table : Table) :
    List Node → Journal (List (String × FrameColumn))
  | [] => pure []
  | node :: nodes => do
    let column ← resolve options table node
    let columns ← resolveAll options table nodes
    return (node.text, column) :: columns

/-- The columns under their texts: the place of the first and the values of the last of those with
one text. -/
def keyed (columns : List (String × FrameColumn)) : Dictionary String FrameColumn :=
  Dictionary.putAll [] columns

/-- The frame of resolved columns. -/
def assemble (options : Options) (terms : TermsTable) (index : List Plain)
    (columns : Dictionary String FrameColumn) : ModelFrame :=
  let mask := options.missing.mask index.length (columns.map fun c => c.2.missing)
  let finish (c : FrameColumn) : FrameColumn :=
    if options.settings.dropUnusedLevels then (c.keep mask).dropUnused else c.keep mask
  { terms, columns := columns.map fun c => (c.1, finish c.2), index := mask.keep index
    retained := mask }

/-- The number of rows. -/
def rows (frame : ModelFrame) : Nat := frame.index.length

/-- What is logged about a frame. -/
def entry (frame : ModelFrame) : Entry where
  logger := "ModelFrameBuilder"
  method := .debug
  message := "Built model frame"
  facts :=
    [("columns", (Plain.list (frame.columns.map fun c => .text c.1)).shown),
      ("n_rows", toString frame.rows), ("n_dropped", toString frame.retained.dropped)]

/-- Builds the frame of a terms table. -/
def ofTerms (options : Options) (terms : TermsTable) (source : Source) : Journal ModelFrame := do
  let table ← source.validate "data"
  let columns ← resolveAll options table terms.vocabulary
  let frame := assemble options terms table.index (keyed columns)
  Journal.record frame.entry
  return frame

/-- Builds the frame of a formula. -/
def build (options : Options) (formula : Node) (source : Source) : Journal ModelFrame := do
  let terms ← TermsTable.ofFormula formula
  ofTerms options terms source

/-! ## Columns -/

/-- The column of an evaluation term, found by its text. -/
def column (frame : ModelFrame) (node : Node) : Except Failure FrameColumn := do
  let text ← node.render
  match frame.columns.get? text with
  | some c => return c
  | none => throw .unknownName

/-- The levels of a factor in the frame. -/
def levels (frame : ModelFrame) (node : Node) : Except Failure (List Level) := do
  let column ← frame.column node
  match column.levels? with
  | some levels => return levels
  | none => throw .missingPart

/-! ## Response -/

/-- The values of a response: numbers or levels. -/
inductive Response where
  | numbers (values : List Float)
  | levels (cells : List (Option Level))
  deriving DecidableEq

/-- Levels that are doubles are numbers, and so are whole numbers where some are missing. -/
def Response.ofColumn : FrameColumn → Response
  | .numeric values => .numbers values
  | .factor f =>
    match f.kind, f.hasMissing with
    | .floating, _ => .numbers (f.values.map (Column.floatOf Level.toFloat))
    | .whole, true => .numbers (f.values.map (Column.floatOf Level.toFloat))
    | _, _ => .levels f.values

/-- The column of the left-hand side. -/
def response (frame : ModelFrame) : Except Failure Response :=
  match frame.terms.responseTerm? with
  | none => .error (.missingResponse frame.terms.formula.text)
  | some node => (frame.column node).map Response.ofColumn

end ModelFrame

end ModelFormula
