import ModelFormula.Frame

/-!
# Coefficient names

* `ModelFrame.coefficientNames` — the labels of the columns of the model matrix: a numeric term has
  its own text, a factor one label for each level but the base.
-/

set_option autoImplicit false

namespace ModelFormula.ModelFrame

/-- The labels of the levels of a term, without the one at the base. -/
def levelNames (term : Node) (levels : List Level) (base : Int) : List String :=
  (levels.zipIdx 1).filterMap fun p =>
    if (p.2 : Int) = base then none else some (term.text ++ " - " ++ p.1.label)

/-- The labels of a term, which must be built from a single evaluation term. -/
def termNames (frame : ModelFrame) (base : Int) (column : Nat) (term : Node) :
    Except Failure (List String) := do
  match frame.terms.evaluationTermsAt column with
  | [node] =>
    match ← frame.column node with
    | .factor f => return levelNames term f.levels base
    | .numeric _ => return [term.text]
  | _ =>
    throw (.invalidTerm term.text
      "coefficient names are only defined for single-variable terms"
      ["Use matrix column indices with the assign vector for interactions"])

/-- The labels of the terms that are not groupings. -/
def termsNames (frame : ModelFrame) (base : Int) :
    List (Nat × Node) → Except Failure (List String)
  | [] => .ok []
  | (column, term) :: rest => do
    let first ← frame.termNames base column term
    let others ← frame.termsNames base rest
    return first ++ others

/-- The labels of the columns of the model matrix. -/
def coefficientNames (frame : ModelFrame) (base : Int) : Except Failure (List String) := do
  let names ← frame.termsNames base frame.terms.fixedTerms
  return if frame.terms.intercept then "(Intercept)" :: names else names

end ModelFormula.ModelFrame
