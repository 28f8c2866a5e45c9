import ModelFormula.Failure

/-!
# Building nodes

A name stands for its symbol and a number for its literal, so that trees can be written with plain
values at their leaves.

* `Node.ofValue` — the node that a value stands for.
* `Node.ofCall`, `Node.ofFormula` — a call and a formula whose parts are taken that way.
-/

set_option autoImplicit false

namespace ModelFormula.Node

/-- Nodes stand for themselves, texts for symbols and numbers for literals. -/
def ofValue : Node → Except Failure Node
  | .plain (.text s) => .ok (.symbol (.text s))
  | .plain (.int n) => .ok (.literal (.int n))
  | .plain (.float x) => .ok (.literal (.float x))
  | .plain (.nan i) => .ok (.literal (.nan i))
  | .plain v => .error (.malformed (.plain v) "symbol, number or expression node")
  | .formula left right =>
    .error (.malformed (.formula left right) "symbol, number or expression node")
  | node => .ok node

def ofCall (op : Plain) (args : List Node) : Except Failure Node :=
  (args.mapM ofValue).map (.call op)

/-- `left ~ right`; null stands for a missing left-hand side. -/
def ofFormula (left right : Node) : Except Failure Node :=
  match left with
  | .plain .null => (ofValue right).map (.formula none)
  | _ => do
    let left ← ofValue left
    let right ← ofValue right
    return .formula (some left) right

end ModelFormula.Node
