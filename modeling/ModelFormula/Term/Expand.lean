import ModelFormula.Node.WellFormed
import ModelFormula.Term.Distribute
import ModelFormula.Term.Flatten

/-!
# Expansion into terms

The right-hand side of a formula stands for a list of terms and says whether the model keeps its
intercept.

* `Node.summands`, `Node.interactionOrder`, `Node.evaluationTerms` — the parts of a term.
* `Expansion.ofNode` — validates, distributes, flattens, drops the intercept markers and sorts the
  terms by interaction order, terms of one order keeping their places.
-/

set_option autoImplicit false

namespace ModelFormula

namespace Node

/-- The operands of a sum; any other node is its own only summand. -/
def summands : Node → List Node
  | .call op args => if op = .text "+" then args else [.call op args]
  | node => [node]

/-- The number of operands of an interaction; one for any other term. -/
def interactionOrder : Node → Nat
  | .call op args => if op = .text "&" then args.length else 1
  | _ => 1

def isLiteral : Node → Bool
  | .literal _ => true
  | _ => false

/-- A term that is built from the values of other terms and not evaluated itself. -/
def isCompound (op : Plain) : Bool := op = .text "&" || op = .text "|"

/-- The expressions to be evaluated for a term: for an interaction or a grouping the summands of its
operands without the literals, else the term itself. -/
def evaluationTerms : Node → List Node
  | .call op args =>
    if isCompound op then (args.flatMap summands).filter (!·.isLiteral) else [.call op args]
  | node => [node]

/-- Evaluation terms of any tree; an operator that cannot be looked up is refused. -/
def checkedEvaluationTerms (node : Node) : Except Failure (List Node) :=
  match node with
  | .call op _ => if op.hashable then .ok node.evaluationTerms else .error .wrongKind
  | _ => .ok node.evaluationTerms

/-- Grouping terms are not fixed effects. -/
def isFixedEffect (node : Node) : Bool := !node.isCallOf "|"

/-- A literal of the numeric value `n`. -/
def isNumber (n : Int) : Node → Bool
  | .literal value => value.same (.int n)
  | _ => false

/-- `0`, `-1`, or the literal one under a minus sign. -/
def removesIntercept : Node → Bool
  | .call op [arg] => decide (op = .text "-") && arg.isNumber 1
  | node => node.isNumber 0 || node.isNumber (-1)

end Node

/-- What a right-hand side stands for. -/
structure Expansion where
  terms : List Node
  intercept : Bool

namespace Expansion

/-- The interaction orders of the terms. -/
def orders (x : Expansion) : List Nat := x.terms.map Node.interactionOrder

/-- Drops the intercept markers of a list of summands and sorts the rest by order. -/
def ofSummands (candidates : List Node) : Expansion :=
  let rest := candidates.filter fun term => !term.isNumber 1
  let terms := rest.filter fun term => !term.removesIntercept
  { terms := terms.mergeSort fun s t => s.interactionOrder ≤ t.interactionOrder
    intercept := !rest.any Node.removesIntercept }

/-- Expands a right-hand side. -/
def ofNode (right : Node) : Except Failure Expansion := do
  right.validate
  let distributed ← right.distribute
  return ofSummands distributed.flatten.summands

end Expansion

end ModelFormula
