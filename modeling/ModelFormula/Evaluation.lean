import ModelFormula.Evaluation.Functions
import ModelFormula.Journal
import ModelFormula.Table
import ModelFormula.Text.Number

/-!
# Evaluation

Expressions are evaluated column by column: symbols are columns of the table, literals are single
numbers, operators are arithmetic and every other call is looked up in a registry.

* `Node.evaluate` — the value of an expression; arguments first, from left to right.
* `evaluateColumn` — the value as one number for every row, with a log entry if some are infinite.
-/

set_option autoImplicit false

namespace ModelFormula

/-- The number of a literal. -/
def literalNumber : Plain → Except Failure Float
  | .int n =>
    match floatOfInt? n with
    | some x => .ok x
    | none => .error .overflow
  | .float x => .ok x
  | .nan _ => .ok (0.0 / 0.0)
  | .bool b => .ok (if b then 1.0 else 0.0)
  | .text s =>
    match Text.double? s with
    | some x => .ok x
    | none => .error .badValue
  | _ => .error .wrongKind

/-- The values of a named column. -/
def Source.vector (source : Source) (name : Plain) : Except Failure Value := do
  let column ← source.column name
  let xs ← column.numbers name.asText
  return .vector xs

/-- Folds an operator over its evaluated operands from the left; plus and minus also take one. -/
def applyArithmetic (call : Node) (op : Plain) (f : Float → Float → Float) :
    List Value → Except Failure Value
  | [v] =>
    if op = .text "+" then .ok v
    else if op = .text "-" then .ok (v.map fun x => -x)
    else tooFew
  | [] => tooFew
  | v :: vs => vs.foldlM (Value.combine f) v
where
  tooFew : Except Failure Value := do
    let term ← call.render
    throw (.invalidTerm term ("operator '" ++ op.asText ++ "' needs two operands") [])

/-- Calls a function of the registry. -/
def applyFunction (call : Node) (op : Plain) (registry : Registry) (values : List Value) :
    Except Failure Value :=
  match registry.find? op with
  | some f => f values
  | none => do
    let term ← call.render
    throw (.invalidTerm term ("unknown function '" ++ op.asText ++ "'")
      ["Known functions: " ++ ", ".intercalate registry.names,
        "Register new functions with ExpressionEvaluator.register()"])

/-- Applies an operator or function to evaluated arguments. -/
def applyCall (registry : Registry) (call : Node) (op : Plain) (values : List Value) :
    Except Failure Value :=
  if !op.hashable then .error .wrongKind
  else
    match arithmetic? op with
    | some f => applyArithmetic call op f values
    | none => applyFunction call op registry values

namespace Node

mutual
/-- The value of an expression. -/
def evaluate (registry : Registry) (source : Source) : Node → Except Failure Value
  | .literal value => (literalNumber value).map .scalar
  | .symbol name => source.vector name
  | .call op args =>
    match evaluateAll registry source args with
    | .error e => .error e
    | .ok values => applyCall registry (.call op args) op values
  | .formula left right => .error (.malformed (.formula left right) "expression node")
  | .plain value => .error (.malformed (.plain value) "expression node")
def evaluateAll (registry : Registry) (source : Source) : List Node → Except Failure (List Value)
  | [] => .ok []
  | arg :: args =>
    match arg.evaluate registry source with
    | .error e => .error e
    | .ok v =>
      match evaluateAll registry source args with
      | .error e => .error e
      | .ok vs => .ok (v :: vs)
end

end Node

/-- One number for every row; a single number is repeated. -/
def spreadOverRows (node : Node) (source : Source) (v : Value) : Except Failure (List Float) := do
  match v with
  | .scalar x =>
    let rows ← source.rows
    return List.replicate rows x
  | v =>
    let rows ← source.rows
    if v.shape = [rows] then return v.numbers
    else
      let term ← node.render
      throw (.dataIssue ("'" ++ term ++ "' evaluated to shape " ++
        tupleText (v.shape.map toString) ++ ", expected (" ++ toString rows ++ ",)"))

/-- Notes in the log how many values are infinite, if some are. -/
def noteInfinite (node : Node) (xs : List Float) : Journal Unit :=
  match xs.countP Float.isInf with
  | 0 => pure ()
  | n => do
    let term ← node.render
    Journal.record
      { logger := "ExpressionEvaluator", method := .warning
        message := "'" ++ term ++ "' produced infinite values", facts := [("count", toString n)] }

/-- The value of an expression in every row. -/
def evaluateColumn (registry : Registry) (node : Node) (source : Source) : Journal (List Float) := do
  let v ← node.evaluate registry source
  let xs ← spreadOverRows node source v
  noteInfinite node xs
  return xs

end ModelFormula
