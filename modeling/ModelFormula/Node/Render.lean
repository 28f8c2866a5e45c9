import ModelFormula.Node

/-!
# Formula text

Nodes are written the way formulas are read: operators between their operands, with as few
parentheses as the precedences `|`, `+ -`, `* /`, `&`, `^` allow.

* `Node.text` — the text of a node.
* `Node.isRenderable` — whether a node has a text: its symbols have textual names and its operators
  can be looked up.
-/

set_option autoImplicit false

namespace ModelFormula

/-- How strongly an operator binds, for the operators written between their operands. -/
def precedence? : Plain → Option Nat
  | .text "|" => some 1
  | .text "+" => some 2
  | .text "-" => some 2
  | .text "*" => some 3
  | .text "/" => some 3
  | .text "&" => some 4
  | .text "^" => some 5
  | _ => none

/-- Operators that chain without parentheses on their right. -/
def isChainable (op : Plain) : Bool :=
  op = .text "+" || op = .text "*" || op = .text "&" || op = .text "|"

/-- What stands between two operands: `&` and `^` take no blanks. -/
def separator (op : Plain) : String :=
  if op = .text "&" || op = .text "^" then op.asText else " " ++ op.asText ++ " "

namespace Node

/-- The precedence of a node that is written with an operator between two or more operands. -/
def infix? : Node → Option Nat
  | .call op args => if 2 ≤ args.length then precedence? op else none
  | _ => none

/-- Whether an operand needs parentheses below the operator `op` of precedence `outer`; `first`
says that nothing stands to its left. -/
def needsParens (op : Plain) (outer : Nat) (first : Bool) (arg : Node) : Bool :=
  match arg, arg.infix? with
  | .call inner _, some p =>
    p < outer ||
      (p == outer && ((!first && !(decide (inner = op) && isChainable op)) || op = .text "^"))
  | _, _ => false

def parenthesized (s : String) : String := "(" ++ s ++ ")"

mutual
/-- The text of a node. -/
def text : Node → String
  | .symbol name => name.asText
  | .literal value => value.asText
  | .plain value => value.asText
  | .formula none right => "Formula:  ~ " ++ right.text
  | .formula (some left) right => "Formula: " ++ left.text ++ " ~ " ++ right.text
  | .call op [arg] =>
    if op = .text "-" || op = .text "+" then
      op.asText ++ (if arg.infix?.isSome then parenthesized arg.text else arg.text)
    else op.asText ++ "(" ++ arg.text ++ ")"
  | .call op args =>
    match precedence? op with
    | some outer =>
      if 2 ≤ args.length then (separator op).intercalate (operandTexts op outer true args)
      else op.asText ++ "()"
    | none => op.asText ++ "(" ++ ", ".intercalate (textList args) ++ ")"
def operandTexts (op : Plain) (outer : Nat) : Bool → List Node → List String
  | _, [] => []
  | first, arg :: args =>
    (if needsParens op outer first arg then parenthesized arg.text else arg.text) ::
      operandTexts op outer false args
def textList : List Node → List String
  | [] => []
  | arg :: args => arg.text :: textList args
end

mutual
/-- Whether a node has a text. -/
def isRenderable : Node → Bool
  | .symbol (.text _) => true
  | .symbol _ => false
  | .literal _ => true
  | .plain _ => true
  | .formula none right => right.isRenderable
  | .formula (some left) right => left.isRenderable && right.isRenderable
  | .call op args => op.hashable && areRenderable args
def areRenderable : List Node → Bool
  | [] => true
  | arg :: args => arg.isRenderable && areRenderable args
end

end Node

end ModelFormula
