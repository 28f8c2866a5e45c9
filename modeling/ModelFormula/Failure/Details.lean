import ModelFormula.Dictionary
import ModelFormula.Failure.Report

/-!
# Reports from details

A report can be asked for by the kind of its problem, with details given by position or by name.

* `Problem.details` — the details that may be given by position, with their defaults.
* `Problem.extraDetails` — the details that may be given by name only.
* `Report.ofDetails` — the report, unless a detail is unknown, superfluous or given twice.
-/

set_option autoImplicit false

namespace ModelFormula

/-- The details of a problem in the order in which they may be given by position. -/
def Problem.details : Problem → List String
  | .general => ["message", "suggestions", "documentation_link", "error_code", "context"]
  | .dataFormat => ["specific_issue", "missing_columns", "available_columns"]
  | .modelSpecification => ["formula", "term", "reason"]
  | .malformedExpression => ["expression", "expected"]
  | .unsupportedInteraction => ["term", "order"]
  | .missingResponse => ["formula"]
  | .contrast => ["n_levels", "base", "reason", "column"]
  | .insufficientLevels => ["n_levels"]
  | .invalidBase => ["n_levels", "base"]
  | .configuration => ["config_key"]

/-- The details that are given by name only. -/
def Problem.extraDetails : Problem → List String
  | .general => []
  | .dataFormat => ["suggestions", "error_code"]
  | .modelSpecification => ["suggestions", "documentation_link", "error_code"]
  | .malformedExpression => ["formula", "documentation_link"]
  | .unsupportedInteraction => ["formula", "documentation_link"]
  | .missingResponse => ["term", "documentation_link"]
  | .contrast => ["suggestions", "error_code"]
  | .insufficientLevels => ["base", "column"]
  | .invalidBase => ["column"]
  | .configuration => ["suggestions"]

namespace Report

/-- Details by name. -/
abbrev Details := Dictionary String Node

/-- A node as an untyped detail. -/
def plainOf : Node → Plain
  | .plain v => v
  | node => .text node.text

/-- The detail of a name, or a default. -/
def Details.getD (details : Details) (name : String) (default : Plain := .null) : Plain :=
  ((Dictionary.get? details name).map plainOf).getD default

/-- Names the positional details and adds the named ones. -/
def bind (problem : Problem) (positional : List Node) (named : Details) : Option Details :=
  if problem.details.length < positional.length then none
  else
    let given := problem.details.zip positional
    let known (name : String) : Bool :=
      (problem.details.contains name && !given.any (·.1 == name)) ||
        problem.extraDetails.contains name
    if named.all (fun d => known d.1) then some (given ++ named) else none

/-- A general report; a context that is empty or not given counts as empty. -/
def general (d : Details) : Option Report := do
  let message ← Dictionary.get? d "message"
  let suggestions := d.getD "suggestions"
  let advice ← if suggestions.truthy then items? suggestions else some []
  let context :=
    match d.getD "context" with
    | .dict entries => entries
    | _ => []
  return { problem := .general, message := (plainOf message).asText, suggestions := advice
           link := d.getD "documentation_link", code := d.getD "error_code", context }

/-- The report of a problem, from details given by position and by name. -/
def ofDetails (problem : Problem) (positional : List Node) (named : Details) : Option Report := do
  let d ← bind problem positional named
  match problem with
  | .general => general d
  | .dataFormat =>
    dataFormat (d.getD "specific_issue") (d.getD "missing_columns") (d.getD "available_columns")
      (d.getD "error_code" (.text "DATA_FORMAT"))
  | .modelSpecification =>
    modelSpecification (d.getD "formula") (d.getD "term") (d.getD "reason")
      (d.getD "suggestions") (d.getD "documentation_link" formulaLink)
      (d.getD "error_code" (.text "MODEL_SPEC"))
  | .malformedExpression =>
    malformedExpression ((Dictionary.get? d "expression").getD (.plain .null))
      (d.getD "expected" (.text "call expression")) (d.getD "formula")
      (d.getD "documentation_link" formulaLink)
  | .unsupportedInteraction =>
    unsupportedInteraction (d.getD "term") (d.getD "order") (d.getD "formula")
      (d.getD "documentation_link" formulaLink)
  | .missingResponse =>
    missingResponse (d.getD "formula") (d.getD "term") (d.getD "documentation_link" formulaLink)
  | .contrast =>
    contrast (d.getD "n_levels") (d.getD "base") (d.getD "reason") (d.getD "column")
      (d.getD "suggestions") (d.getD "error_code" (.text "CONTRAST"))
  | .insufficientLevels =>
    insufficientLevels (d.getD "n_levels") (d.getD "base") (d.getD "column")
  | .invalidBase => invalidBase (d.getD "n_levels") (d.getD "base") (d.getD "column")
  | .configuration => return configuration (d.getD "config_key")

end Report

end ModelFormula
