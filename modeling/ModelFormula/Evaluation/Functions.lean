import ModelFormula.Dictionary
import ModelFormula.Evaluation.Value

/-!
# Functions known to formulas

* `arithmetic?` — the operators that always mean arithmetic.
* `Registry` — functions by name; a later registration replaces an earlier one.
* `Registry.standard` — the functions known from the start.
-/

set_option autoImplicit false

namespace ModelFormula

/-- The arithmetic of an operator. -/
def arithmetic? : Plain → Option (Float → Float → Float)
  | .text "+" => some (· + ·)
  | .text "-" => some (· - ·)
  | .text "*" => some (· * ·)
  | .text "/" => some (· / ·)
  | .text "^" => some Float.pow
  | _ => none

/-- A function of evaluated arguments; it may refuse their number or kind. -/
abbrev Function := List Value → Except Failure Value

namespace Function

/-- A function of one number.  A second argument, if given, is only there for its shape, which the
result takes. -/
def ofUnary (f : Float → Float) : Function
  | [v] => .ok (v.map f)
  | [v, w] => (v.map f).filled w
  | _ => .error .wrongKind

/-- Gives its only argument back. -/
def identity : Function
  | [v] => .ok v
  | _ => .error .wrongKind

end Function

/-- Functions by name. -/
abbrev Registry := Dictionary String Function

namespace Registry

/-- The functions known from the start. -/
def standard : Registry :=
  [("I", Function.identity), ("log", .ofUnary Float.log), ("log2", .ofUnary Float.log2),
    ("log10", .ofUnary Float.log10), ("exp", .ofUnary Float.exp), ("sqrt", .ofUnary Float.sqrt),
    ("abs", .ofUnary Float.abs), ("sin", .ofUnary Float.sin), ("cos", .ofUnary Float.cos),
    ("tan", .ofUnary Float.tan)]

/-- Makes a function known under a name, replacing the one that had it. -/
def register (r : Registry) (name : String) (f : Function) : Registry := Dictionary.put r name f

/-- The standard functions and others. -/
def extended (functions : Registry) : Registry := Dictionary.putAll standard functions

/-- The function of an operator. -/
def find? (r : Registry) (op : Plain) : Option Function :=
  match op with
  | .text name => Dictionary.get? r name
  | _ => none

/-- The known names, sorted. -/
def names (r : Registry) : List String :=
  (Dictionary.keys r).mergeSort fun a b => decide (a ≤ b)

end Registry

end ModelFormula
