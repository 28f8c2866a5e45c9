import ModelFormula.Plain

/-!
# Expression nodes

A formula side is a tree of symbols, literals and calls.  The parts of a node are untyped and any
value may stand where a node is expected, so that ill-formed trees can be named in messages; which
trees are well formed is said in `ModelFormula.Node.WellFormed`.

* `Node` — expressions, formulas and the plain values that may stand in their place.
* `Node.same` — equality by value: literals are compared as numbers.
* `Node.beq_iff` — structural equality is decidable.
-/

set_option autoImplicit false

namespace ModelFormula

inductive Node where
  | symbol (name : Plain)
  | literal (value : Plain)
  | call (op : Plain) (args : List Node)
  /-- `left ~ right`; a one-sided formula has no left-hand side. -/
  | formula (left : Option Node) (right : Node)
  | plain (value : Plain)
  deriving Inhabited

namespace Node

/-- The symbol of a name. -/
def var (name : String) : Node := .symbol (.text name)

/-- The operator or function `op` applied to arguments. -/
def app (op : String) (args : List Node) : Node := .call (.text op) args

/-! ## Structural equality -/

mutual
/-- Equality of constructors and parts. -/
def beq : Node → Node → Bool
  | .symbol a, .symbol b => decide (a = b)
  | .literal a, .literal b => decide (a = b)
  | .call f xs, .call g ys => decide (f = g) && beqList xs ys
  | .formula none r, .formula none s => r.beq s
  | .formula (some l) r, .formula (some m) s => l.beq m && r.beq s
  | .plain a, .plain b => decide (a = b)
  | _, _ => false
def beqList : List Node → List Node → Bool
  | [], [] => true
  | x :: xs, y :: ys => x.beq y && beqList xs ys
  | _, _ => false
end

mutual
theorem beq_iff : ∀ x y : Node, x.beq y = true ↔ x = y
  | .symbol _, y => by cases y <;> simp [beq]
  | .literal _, y => by cases y <;> simp [beq]
  | .call _ xs, y => by cases y <;> simp [beq, beqList_iff xs]
  | .formula none r, y => by
    cases y with
    | formula left right => cases left <;> simp [beq, beq_iff r]
    | _ => simp [beq]
  | .formula (some l) r, y => by
    cases y with
    | formula left right => cases left <;> simp [beq, beq_iff l, beq_iff r]
    | _ => simp [beq]
  | .plain _, y => by cases y <;> simp [beq]
theorem beqList_iff : ∀ xs ys : List Node, beqList xs ys = true ↔ xs = ys
  | [], ys => by cases ys <;> simp [beqList]
  | x :: xs, ys => by cases ys <;> simp [beqList, beq_iff x, beqList_iff xs]
end

instance : DecidableEq Node := fun x y => decidable_of_iff _ (beq_iff x y)

/-! ## Equality by value -/

mutual
/-- The representative of all nodes that equal this one. -/
def canon : Node → Node
  | .symbol name => .symbol name.canon
  | .literal value => .literal value.canon
  | .call op args => .call op.canon (canonList args)
  | .formula none right => .formula none right.canon
  | .formula (some left) right => .formula (some left.canon) right.canon
  | .plain value => .plain value.canon
def canonList : List Node → List Node
  | [] => []
  | x :: xs => x.canon :: canonList xs
end

/-- Equality by value. -/
def same (x y : Node) : Bool := decide (x.canon = y.canon)

theorem same_iff (x y : Node) : x.same y = true ↔ x.canon = y.canon := by simp [same]

/-- Whether a node equal by value is in a list. -/
def isIn (x : Node) (xs : List Node) : Bool := xs.any (x.same ·)

mutual
/-- Whether nodes equal to this one can be looked up: no list or dictionary stands inside. -/
def hashable : Node → Bool
  | .symbol name => name.hashable
  | .literal value => value.hashable
  | .call op args => op.hashable && hashableList args
  | .formula none right => right.hashable
  | .formula (some left) right => left.hashable && right.hashable
  | .plain value => value.hashable
def hashableList : List Node → Bool
  | [] => true
  | x :: xs => x.hashable && hashableList xs
end

/-- What the kind of a node is called in messages. -/
def kindName : Node → String
  | .symbol _ => "Symbol"
  | .literal _ => "Literal"
  | .call _ _ => "Call"
  | .formula _ _ => "Formula"
  | .plain value => value.kindName

/-- Whether a node is the call of one operator. -/
def isCallOf (op : String) : Node → Bool
  | .call f _ => decide (f = .text op)
  | _ => false

end Node

end ModelFormula
