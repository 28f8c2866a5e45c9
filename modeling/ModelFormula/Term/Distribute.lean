import ModelFormula.Failure

/-!
# Distribution of products

A product of terms stands for its operands and their interactions: `a * b` is `a + b + a&b`.
Products of more than two operands fold from the right, so that `a * b * c` is `a + s + a&s` with
`s` what `b * c` stands for.

* `Node.crossed` — what the product of two operands stands for.
* `Node.distribute` — replaces every product below the formula operators, operands first; a product
  of fewer than two operands fails.
-/

set_option autoImplicit false

namespace ModelFormula

/-- Operators with a meaning in formulas; below every other call nothing is replaced. -/
def isFormulaOperator (op : Plain) : Bool :=
  op = .text "+" || op = .text "-" || op = .text "*" || op = .text "/" || op = .text "&" ||
    op = .text "|" || op = .text "^"

namespace Node

/-- `a + s + a&s`. -/
def crossed (a s : Node) : Node := app "+" [a, s, app "&" [a, s]]

/-- The right fold of a product over its operands, which have been distributed before. -/
def product (first : Node) : List Node → Node
  | [] => first
  | second :: rest => crossed first (product second rest)

mutual
/-- Replaces the products of an expression by sums of interactions. -/
def distribute : Node → Except Failure Node
  | .call op args =>
    if !op.hashable then .error .wrongKind
    else if isFormulaOperator op then
      match distributeAll args with
      | .error e => .error e
      | .ok operands =>
        if op = .text "*" then
          match operands with
          | first :: second :: rest => .ok (product first (second :: rest))
          | _ => .error (.malformed (.call op args) "product of at least two operands")
        else .ok (.call op operands)
    else .ok (.call op args)
  | .symbol name => .ok (.symbol name)
  | .literal value => .ok (.literal value)
  | .formula left right => .ok (.formula left right)
  | .plain value => .ok (.plain value)
def distributeAll : List Node → Except Failure (List Node)
  | [] => .ok []
  | arg :: args =>
    match arg.distribute with
    | .error e => .error e
    | .ok first =>
      match distributeAll args with
      | .error e => .error e
      | .ok rest => .ok (first :: rest)
end

end Node

end ModelFormula
