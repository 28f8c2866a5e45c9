import ModelFormula.Failure

/-!
# Values of expressions

* `Value` — a number, a vector, or a grid of rows.
* `Value.map` — a function of one number at every place.
* `Value.combine` — a function of two numbers, place by place; a single number, a single item and a
  single row or column stretch to the size of the other operand.
* `Value.filled` — a value stretched to the shape of another.
-/

set_option autoImplicit false

namespace ModelFormula

inductive Value where
  | scalar (x : Float)
  | vector (xs : List Float)
  /-- Rows of `width` numbers each. -/
  | grid (width : Nat) (rows : List (List Float))

/-! ## Stretching -/

/-- The common size of two sides: equal, or one of them is one. -/
def commonSize (m n : Nat) : Option Nat :=
  if m = n then some m else if m = 1 then some n else if n = 1 then some m else none

/-- Repeats a single item. -/
def stretch {α : Type} (n : Nat) : List α → List α
  | [x] => List.replicate n x
  | xs => xs

/-- Combines two lists item by item, a single item standing for as many as needed. -/
def stretchWith {α β γ : Type} (f : α → β → γ) (xs : List α) (ys : List β) : Option (List γ) :=
  (commonSize xs.length ys.length).map fun n => List.zipWith f (stretch n xs) (stretch n ys)

theorem stretchWith_of_length_eq {α β γ : Type} (f : α → β → γ) {xs : List α} {ys : List β}
    (h : xs.length = ys.length) : stretchWith f xs ys = some (List.zipWith f xs ys) := by
  have s {δ : Type} (zs : List δ) : stretch zs.length zs = zs := by
    match zs with
    | [] => rfl
    | [_] => rfl
    | _ :: _ :: _ => rfl
  simp only [stretchWith, commonSize, h, if_true, Option.map_some, s ys]
  rw [← h, s xs]

namespace Value

/-- A function of one number at every place. -/
def map (f : Float → Float) : Value → Value
  | .scalar x => .scalar (f x)
  | .vector xs => .vector (xs.map f)
  | .grid width rows => .grid width (rows.map (List.map f))

/-- The width and the rows of a value seen as a grid: vectors are single rows. -/
def asGrid : Value → Nat × List (List Float)
  | .scalar x => (1, [[x]])
  | .vector xs => (xs.length, [xs])
  | .grid width rows => (width, rows)

/-- Combines two grids. -/
def combineGrids (f : Float → Float → Float) (a b : Nat × List (List Float)) : Option Value := do
  let width ← commonSize a.1 b.1
  let rows ← stretchWith (fun u v => List.zipWith f (stretch width u) (stretch width v)) a.2 b.2
  return .grid width rows

/-- A function of two numbers, place by place. -/
def combine (f : Float → Float → Float) : Value → Value → Except Failure Value
  | .scalar x, .scalar y => .ok (.scalar (f x y))
  | .scalar x, .vector ys => .ok (.vector (ys.map (f x)))
  | .vector xs, .scalar y => .ok (.vector (xs.map (f · y)))
  | .vector xs, .vector ys =>
    match stretchWith f xs ys with
    | some zs => .ok (.vector zs)
    | none => .error .badValue
  | a, b =>
    match combineGrids f a.asGrid b.asGrid with
    | some v => .ok v
    | none => .error .badValue

/-- The dimensions of a value. -/
def shape : Value → List Nat
  | .scalar _ => []
  | .vector xs => [xs.length]
  | .grid width rows => [rows.length, width]

/-- The first value in the shape of the second, which must be the larger one; a single number has no
places to fill. -/
def filled (a b : Value) : Except Failure Value :=
  match b with
  | .scalar _ => .error .wrongKind
  | _ => do
    let v ← combine (fun x _ => x) a b
    if v.shape = b.shape then return v else throw .badValue

/-- All numbers of a value, row by row. -/
def numbers : Value → List Float
  | .scalar x => [x]
  | .vector xs => xs
  | .grid _ rows => rows.flatten

end Value

end ModelFormula
