import ModelFormula.Failure

/-!
# Reports

A report explains a problem to the user: a message, numbered suggestions, a link, a code and the
facts it was made from.

* `Report.text` — the full text.
* `Report.dataFormat`, … — the reports of the kinds of problems, made from details that may each be
  missing (null) or untyped.
* `Failure.report?` — the report of a failure, for the failures that have one.
-/

set_option autoImplicit false

namespace ModelFormula

/-- The kinds of reported problems. -/
inductive Problem where
  | general
  | dataFormat
  | modelSpecification
  | malformedExpression
  | unsupportedInteraction
  | missingResponse
  | contrast
  | insufficientLevels
  | invalidBase
  | configuration
  deriving DecidableEq, Repr

namespace Problem

/-- What a kind of problem is called. -/
def name : Problem → String
  | .general => "FormulaJaxError"
  | .dataFormat => "DataFormatError"
  | .modelSpecification => "ModelSpecificationError"
  | .malformedExpression => "MalformedExpressionError"
  | .unsupportedInteraction => "UnsupportedInteractionOrderError"
  | .missingResponse => "MissingResponseError"
  | .contrast => "ContrastError"
  | .insufficientLevels => "InsufficientLevelsError"
  | .invalidBase => "InvalidBaseError"
  | .configuration => "ConfigurationError"

def all : List Problem :=
  [.general, .dataFormat, .modelSpecification, .malformedExpression, .unsupportedInteraction,
    .missingResponse, .contrast, .insufficientLevels, .invalidBase, .configuration]

def ofName? (s : String) : Option Problem := all.find? (·.name == s)

/-- The kind and the more general kinds it belongs to. -/
def lineage : Problem → List Problem
  | .general => [.general]
  | .dataFormat => [.dataFormat, .general]
  | .modelSpecification => [.modelSpecification, .general]
  | .malformedExpression => [.malformedExpression, .modelSpecification, .general]
  | .unsupportedInteraction => [.unsupportedInteraction, .modelSpecification, .general]
  | .missingResponse => [.missingResponse, .modelSpecification, .general]
  | .contrast => [.contrast, .general]
  | .insufficientLevels => [.insufficientLevels, .contrast, .general]
  | .invalidBase => [.invalidBase, .contrast, .general]
  | .configuration => [.configuration, .general]

end Problem

structure Report where
  problem : Problem
  message : String
  suggestions : List Plain
  link : Plain
  code : Plain
  context : List (String × Plain)
  /-- The interaction order that was refused, where that is the problem. -/
  order : Plain := .null

namespace Report

/-- Suggestions on lines of their own, numbered from `n`. -/
def numbered : Nat → List Plain → String
  | _, [] => ""
  | n, s :: rest => "\n  " ++ toString n ++ ". " ++ s.asText ++ numbered (n + 1) rest

/-- The full text: the code in brackets, the message, the suggestions and the link. -/
def text (r : Report) : String :=
  let head := if r.code.truthy then "[" ++ r.code.asText ++ "] " ++ r.message else r.message
  let advice :=
    if r.suggestions.isEmpty then "" else "\n\nSuggestions:" ++ numbered 1 r.suggestions
  let link := if r.link.truthy then "\n\nDocumentation: " ++ r.link.asText else ""
  head ++ advice ++ link

def texts (lines : List String) : List Plain := lines.map .text

/-- The items of a value that can be listed. -/
def items? : Plain → Option (List Plain)
  | .list xs => some xs
  | .text s => some (s.toList.map fun c => .text (String.singleton c))
  | .dict xs => some (xs.map fun e => .text e.1)
  | _ => none

/-- The suggestions given, or the usual ones if none are. -/
def orElse (given : Plain) (usual : List String) : Option (List Plain) :=
  if given.truthy then items? given else some (texts usual)

/-- The table cannot support the formula: columns are missing, or there is another issue. -/
def dataFormat (issue missing available : Plain) (code : Plain := .text "DATA_FORMAT") :
    Option Report := do
  let report (message : String) (suggestions : List String) : Report :=
    { problem := .dataFormat, message, suggestions := texts suggestions
      link := .text "https://docs.formula-jax.org/data", code
      context := [("specific_issue", issue), ("missing_columns", missing),
        ("available_columns", available)] }
  if missing.truthy then
    let usual :=
      ["Check column name spelling and case sensitivity",
        "Ensure every variable in the formula exists in the data"]
    let message := "Columns not found in data: " ++ missing.asText
    match available with
    | .null => return report message usual
    | _ =>
      let names ← items? available
      return report message
        (("Available columns: " ++ ", ".intercalate (names.map Plain.asText)) :: usual)
  else if issue.truthy then
    return report ("Data format issue: " ++ issue.asText)
      ["Check your data structure and column types",
        "Numeric terms need numeric columns of the table's length",
        "Pass a pandas DataFrame as the data table"]
  else
    return report "Data format validation failed"
      ["Check the data format documentation", "Validate your input data structure"]

/-- The message of a problem with the model: about a term, a formula, or neither. -/
def specificationMessage (formula term reason : Plain) : String :=
  if term.truthy && reason.truthy then
    "Invalid term '" ++ term.asText ++ "': " ++ reason.asText
  else if formula.truthy && reason.truthy then
    "Invalid formula specification '" ++ formula.asText ++ "': " ++ reason.asText
  else if formula.truthy then "Invalid formula specification: " ++ formula.asText
  else "Model specification error"

/-- Where formulas are documented. -/
def formulaLink : Plain := .text "https://docs.formula-jax.org/formulas"

def modelSpecification (formula term reason suggestions : Plain) (link : Plain := formulaLink)
    (code : Plain := .text "MODEL_SPEC") (problem : Problem := .modelSpecification) :
    Option Report := do
  let advice ← orElse suggestions
    ["Check formula syntax (e.g. 'a + b', 'a * b', 'a & b')",
      "Ensure all terms reference existing columns",
      "Use 0 or -1 to drop the intercept"]
  return { problem, message := specificationMessage formula term reason, suggestions := advice
           link, code, context := [("formula", formula), ("term", term), ("reason", reason)] }

def malformedExpression (found : Node) (expected : Plain) (formula : Plain := .null)
    (link : Plain := formulaLink) : Option Report :=
  modelSpecification formula (.text found.shown)
    (.text ("expected a " ++ expected.asText ++ ", found " ++ found.kindName))
    (.list (texts
      ["Build expressions only from Symbol, Call and Literal nodes",
        "Call operators must be non-empty strings",
        "Products need at least two operands, e.g. Call('*', (a, b))"]))
    link (.text "MALFORMED_EXPRESSION") .malformedExpression

def unsupportedInteraction (term order : Plain) (formula : Plain := .null)
    (link : Plain := formulaLink) : Option Report :=
  (modelSpecification formula term
    (.text ("interactions of " ++ order.asText ++ " evaluation terms are not supported"))
    (.list (texts
      ["Model matrices support main effects and two-way interactions",
        "Split the interaction into pairwise terms"]))
    link (.text "INTERACTION_ORDER") .unsupportedInteraction).map
      fun r => { r with order }

def missingResponse (formula : Plain) (term : Plain := .null) (link : Plain := formulaLink) :
    Option Report :=
  modelSpecification formula term (.text "model formula is one-sided")
    (.list (texts
      ["Add a left-hand side, e.g. 'y ~ a + b'",
        "Only request the response for two-sided formulas"]))
    link (.text "MISSING_RESPONSE") .missingResponse

def contrast (levels base reason column suggestions : Plain) (code : Plain := .text "CONTRAST")
    (problem : Problem := .contrast) : Option Report := do
  let advice ← orElse suggestions
    ["Check the number of observed levels of the categorical column",
      "Check the base level index"]
  let message :=
    if reason.truthy then "Cannot build contrasts: " ++ reason.asText
    else "Contrast coding failed"
  let place := if column.truthy then " (column '" ++ column.asText ++ "')" else ""
  return { problem, message := message ++ place, suggestions := advice
           link := .text "https://docs.formula-jax.org/contrasts", code
           context := [("n_levels", levels), ("base", base), ("column", column)] }

def insufficientLevels (levels : Plain) (base column : Plain := .null) : Option Report :=
  contrast levels base
    (.text ("not enough degrees of freedom to define contrasts (" ++ levels.asText ++
      " level(s))"))
    column
    (.list (texts
      ["Contrasts need at least two observed levels",
        "Rows dropped for missing values may have removed levels",
        "Remove constant categorical terms from the formula"]))
    (.text "INSUFFICIENT_LEVELS") .insufficientLevels

def invalidBase (levels base : Plain) (column : Plain := .null) : Option Report :=
  contrast levels base
    (.text ("base = " ++ base.asText ++ " is not allowed for n = " ++ levels.asText)) column
    (.list (texts
      ["Use a 1-based base level between 1 and " ++ levels.asText,
        "Check the contrasts.base configuration value"]))
    (.text "INVALID_BASE") .invalidBase

def configuration (key : Plain) : Report :=
  let (message, advice) :=
    if key.truthy then
      ("Invalid configuration for '" ++ key.asText ++ "'",
        ["Check the value for configuration key '" ++ key.asText ++ "'",
          "Review configuration file syntax",
          "Check environment variable formatting",
          "Use formula_jax.get_config() to inspect current settings"])
    else
      ("Configuration error",
        ["Check configuration file syntax", "Review configuration documentation"])
  { problem := .configuration, message, suggestions := texts advice
    link := .text "https://docs.formula-jax.org/configuration", code := .text "CONFIG"
    context := [("config_key", key)] }

end Report

/-- A text that may be missing, as a detail of a report. -/
def Plain.ofText? : Option String → Plain
  | some s => .text s
  | none => .null

/-- The report of a failure; breaches told apart by their kind alone have none. -/
def Failure.report? : Failure → Option Report
  | .malformed found expected => Report.malformedExpression found (.text expected)
  | .missingColumn name available => Report.dataFormat .null (.list [name]) (.list available)
  | .dataIssue issue => Report.dataFormat (.text issue) .null .null
  | .invalidTerm term reason suggestions =>
    Report.modelSpecification .null (.text term) (.text reason) (.list (Report.texts suggestions))
  | .interactionOrder term order => Report.unsupportedInteraction (.text term) (.int order)
  | .missingResponse formula => Report.missingResponse (.text formula)
  | .insufficientLevels count column =>
    Report.insufficientLevels (.int count) .null (.ofText? column)
  | .invalidBase count base column =>
    Report.invalidBase (.int count) (.int base) (.ofText? column)
  | .configuration key => some (Report.configuration (.text key))
  | _ => none

end ModelFormula
