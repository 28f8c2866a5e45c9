import ModelFormula.Node

/-!
# Nodes shown by their parts

Messages name an offending node by its constructors and parts, as in
`Call(op='+', args=(Symbol(name='a'), Literal(value=1)))`.
-/

set_option autoImplicit false

namespace ModelFormula

/-- A tuple: one item is followed by a comma. -/
def tupleText : List String → String
  | [item] => "(" ++ item ++ ",)"
  | items => "(" ++ ", ".intercalate items ++ ")"

namespace Node

mutual
/-- A node as it is shown inside a message. -/
def shown : Node → String
  | .symbol name => "Symbol(name=" ++ name.shown ++ ")"
  | .literal value => "Literal(value=" ++ value.shown ++ ")"
  | .call op args => "Call(op=" ++ op.shown ++ ", args=" ++ tupleText (shownList args) ++ ")"
  | .formula none right => "Formula(lhs=None, rhs=" ++ right.shown ++ ")"
  | .formula (some left) right =>
    "Formula(lhs=" ++ left.shown ++ ", rhs=" ++ right.shown ++ ")"
  | .plain value => value.shown
def shownList : List Node → List String
  | [] => []
  | x :: xs => x.shown :: shownList xs
end

end Node

end ModelFormula
