import ModelFormula.Failure
import ModelFormula.Firsts

/-!
# Variables of an expression

* `Node.vars` — the names of the symbols of an expression, each once; a formula's right-hand side
  comes before its left-hand side.
-/

set_option autoImplicit false

namespace ModelFormula.Node

mutual
/-- The names of the symbols of an expression: those of each argument that earlier ones do not have.
A plain value in it is refused. -/
def vars : Node → Except Failure (List Plain)
  | .symbol name => .ok [name]
  | .literal _ => .ok []
  | .call _ args => varsInto [] args
  | .formula none right => right.vars
  | .formula (some left) right =>
    match right.vars with
    | .error e => .error e
    | .ok found => left.vars.map (addNew Plain.same found)
  | .plain value => .error (.malformed (.plain value) "call expression")
/-- Adds the names of the symbols of expressions to those found before. -/
def varsInto (found : List Plain) : List Node → Except Failure (List Plain)
  | [] => .ok found
  | arg :: args =>
    match arg.vars with
    | .error e => .error e
    | .ok names => varsInto (addNew Plain.same found names) args
end

end ModelFormula.Node
