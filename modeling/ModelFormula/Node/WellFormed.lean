import ModelFormula.Failure

/-!
# Well-formed expressions

An expression is well formed if its symbols have names, its literals are numbers, its calls have
named operators and its products have at least two operands.

* `Node.wellFormed` — the property.
* `Node.validate` — fails at the first offending node, a call before its arguments.
* `Node.validate_eq_ok_iff` — validation passes exactly on the well-formed expressions.
-/

set_option autoImplicit false

namespace ModelFormula

namespace Plain

/-- A text with at least one character. -/
def isName : Plain → Bool
  | .text s => s != ""
  | _ => false

/-- An integer or a double; truth values are not numbers. -/
def isNumber : Plain → Bool
  | .int _ => true
  | .float _ => true
  | .nan _ => true
  | _ => false

end Plain

namespace Node

/-- A product with fewer than two operands. -/
def isShortProduct (op : Plain) (args : List Node) : Bool :=
  decide (op = .text "*") && decide (args.length < 2)

mutual
def wellFormed : Node → Bool
  | .symbol name => name.isName
  | .literal value => value.isNumber
  | .call op args => op.isName && !isShortProduct op args && allWellFormed args
  | .formula _ _ => false
  | .plain _ => false
def allWellFormed : List Node → Bool
  | [] => true
  | arg :: args => arg.wellFormed && allWellFormed args
end

mutual
/-- Fails at the first node that is not well formed. -/
def validate : Node → Except Failure Unit
  | .symbol name =>
    if name.isName then .ok ()
    else .error (.malformed (.symbol name) "symbol with a non-empty name")
  | .literal value =>
    if value.isNumber then .ok () else .error (.malformed (.literal value) "numeric literal")
  | .call op args =>
    if !op.isName then .error (.malformed (.call op args) "call with a non-empty operator")
    else if isShortProduct op args then
      .error (.malformed (.call op args) "product of at least two operands")
    else validateAll args
  | .formula left right => .error (.malformed (.formula left right) "call expression")
  | .plain value => .error (.malformed (.plain value) "call expression")
def validateAll : List Node → Except Failure Unit
  | [] => .ok ()
  | arg :: args =>
    match arg.validate with
    | .ok () => validateAll args
    | .error e => .error e
end

mutual
theorem validate_eq_ok_iff : ∀ node : Node, node.validate = .ok () ↔ node.wellFormed = true
  | .symbol name => by cases h : name.isName <;> simp [validate, wellFormed, h]
  | .literal value => by cases h : value.isNumber <;> simp [validate, wellFormed, h]
  | .call op args => by
    cases h : op.isName <;> cases h' : isShortProduct op args <;>
      simp [validate, wellFormed, h, h', validateAll_eq_ok_iff args]
  | .formula _ _ => by simp [validate, wellFormed]
  | .plain _ => by simp [validate, wellFormed]
theorem validateAll_eq_ok_iff :
    ∀ args : List Node, validateAll args = .ok () ↔ allWellFormed args = true
  | [] => by simp [validateAll, allWellFormed]
  | arg :: args => by
    have head := validate_eq_ok_iff arg
    cases h : arg.validate with
    | ok u => simp [h] at head; simp [validateAll, allWellFormed, h, head, validateAll_eq_ok_iff args]
    | error e => simp [h] at head; simp [validateAll, allWellFormed, h, head]
end

end Node

end ModelFormula
