import ModelFormula.Node.Shown
import ModelFormula.Node.Render

/-!
# Failures

Why an operation gives no result.  The first group are the problems that the library explains to
its user with a report (`ModelFormula.Failure.Report`); the second group are breaches of what an
operation takes, told apart by their kind alone.
-/

set_option autoImplicit false

namespace ModelFormula

inductive Failure where
  /-- A value stands where a node of a certain form is expected. -/
  | malformed (found : Node) (expected : String)
  /-- A column of that name is not in the table. -/
  | missingColumn (name : Plain) (available : List Plain)
  | dataIssue (issue : String)
  /-- A term that an operation cannot handle; without suggestions the general ones are given. -/
  | invalidTerm (term reason : String) (suggestions : List String)
  | interactionOrder (term : String) (order : Nat)
  | missingResponse (formula : String)
  | insufficientLevels (count : Int) (column : Option String)
  | invalidBase (count base : Int) (column : Option String)
  | configuration (key : String)
  /-- A value of a kind that the operation does not take. -/
  | wrongKind
  /-- A value of the right kind that the operation does not take. -/
  | badValue
  | overflow
  | unknownName
  | missingPart
  | invalidSetting
  | fileNotFound
  | isDirectory
  | fileExists
  | notDirectory
  | invalidDocument
  deriving DecidableEq

/-- The text of a node, if it has one. -/
def Node.render (node : Node) : Except Failure String :=
  if node.isRenderable then .ok node.text else .error .wrongKind

end ModelFormula
