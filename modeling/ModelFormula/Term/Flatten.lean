import ModelFormula.Failure

/-!
# Flattening

* `Node.flatten` — merges nested calls of one associative operator: `a + (b + c)` is `a + b + c`.
* `Node.flattened` — the same, for trees whose operators may be values that cannot be looked up.
-/

set_option autoImplicit false

namespace ModelFormula

/-- Operators whose nested calls merge. -/
def isAssociative (op : Plain) : Bool :=
  op = .text "+" || op = .text "*" || op = .text "&"

namespace Node

/-- What an operand contributes to the operands of a call: its own operands if it is a call of the
same associative operator, else itself. -/
def spread (op : Plain) : Node → List Node
  | .call inner args => if isAssociative op && decide (inner = op) then args else [.call inner args]
  | node => [node]

mutual
def flatten : Node → Node
  | .call op args => .call op (flattenInto op args)
  | .symbol name => .symbol name
  | .literal value => .literal value
  | .formula left right => .formula left right
  | .plain value => .plain value
/-- The operands of a call of `op`, each flattened and then spread. -/
def flattenInto (op : Plain) : List Node → List Node
  | [] => []
  | arg :: args => spread op arg.flatten ++ flattenInto op args
end

mutual
/-- Whether every operator with arguments can be looked up. -/
def hasLookupOperators : Node → Bool
  | .call op args => (args.isEmpty || op.hashable) && haveLookupOperators args
  | .symbol _ => true
  | .literal _ => true
  | .formula _ _ => true
  | .plain _ => true
def haveLookupOperators : List Node → Bool
  | [] => true
  | arg :: args => arg.hasLookupOperators && haveLookupOperators args
end

/-- Flattening of any tree. -/
def flattened (node : Node) : Except Failure Node :=
  if node.hasLookupOperators then .ok node.flatten else .error .wrongKind

end Node

end ModelFormula
