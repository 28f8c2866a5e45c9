import ModelFormula.Failure

/-!
# Shapes of arrays

* `NumericArray` — numbers in row-major order with the sizes of their dimensions.
* `ShapeRule`, `ShapeRule.check` — what a shape must be, and the first way in which one is not.
-/

set_option autoImplicit false

namespace ModelFormula

structure NumericArray where
  shape : List Nat
  /-- The numbers, the last dimension running fastest. -/
  values : List Float

/-- What a shape must be; a missing rule or size allows anything. -/
structure ShapeRule where
  sizes : Option (List (Option Int)) := none
  minDims : Option Int := none
  maxDims : Option Int := none

namespace ShapeRule

/-- The text of a shape. -/
def shapeText (shape : List Nat) : String := tupleText (shape.map toString)

def sizeText : Option Int → String
  | some n => toString n
  | none => "None"

/-- The first dimension, counted from `i`, whose size is not the one demanded. -/
def mismatch? : Nat → List Nat → List (Option Int) → Option (Nat × Nat × Int)
  | i, n :: shape, some k :: sizes =>
    if (n : Int) = k then mismatch? (i + 1) shape sizes else some (i, n, k)
  | i, _ :: shape, none :: sizes => mismatch? (i + 1) shape sizes
  | _, _, _ => none

def checkSizes (name : String) (shape : List Nat) (sizes : List (Option Int)) :
    Except Failure Unit :=
  if shape.length ≠ sizes.length then
    .error (.dataIssue (name ++ " has shape " ++ shapeText shape ++ ", expected " ++
      tupleText (sizes.map sizeText)))
  else
    match mismatch? 0 shape sizes with
    | some (i, n, k) =>
      .error (.dataIssue (name ++ " dimension " ++ toString i ++ " has size " ++ toString n ++
        ", expected " ++ toString k))
    | none => .ok ()

/-- Checks a shape: the number of dimensions first, then their sizes. -/
def check (rule : ShapeRule) (name : String) (shape : List Nat) : Except Failure Unit :=
  let dims := shape.length
  let tooFew := rule.minDims.filter fun k => (dims : Int) < k
  let tooMany := rule.maxDims.filter fun k => k < (dims : Int)
  match tooFew, tooMany, rule.sizes with
  | some k, _, _ => .error (wrongDims dims ("at least " ++ toString k))
  | none, some k, _ => .error (wrongDims dims ("at most " ++ toString k))
  | none, none, some sizes => checkSizes name shape sizes
  | none, none, none => .ok ()
where
  wrongDims (dims : Nat) (expected : String) : Failure :=
    .dataIssue (name ++ " has " ++ toString dims ++ " dimensions, expected " ++ expected)

/-- What is said about a value that has no shape. -/
def noShape (name : String) : Failure :=
  .dataIssue (name ++ " must be an array-like object with shape attribute")

end ShapeRule

end ModelFormula
