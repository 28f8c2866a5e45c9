import ModelFormula.Firsts
import ModelFormula.Journal
import ModelFormula.Term.Expand

/-!
# Terms tables

The canonical description of a formula: its terms, the evaluation terms they are built from, and
which term uses which.

* `TermsTable` — the table.  Its columns are the response, if there is one, and the terms; its rows
  are the evaluation terms, each once, in the order of their first use.
* `TermsTable.incidence`, `TermsTable.evaluationTermsAt` — which column uses which evaluation terms,
  marked and read back.
* `TermsTable.build` — the table of a formula with the given sides.
* `TermsTable.ofFormula` — the same, with its log entry; what is not a formula is refused.
-/

set_option autoImplicit false

namespace ModelFormula

structure TermsTable where
  left : Option Node
  right : Node
  terms : List Node
  intercept : Bool

namespace TermsTable

/-- Whether the formula has a left-hand side. -/
def hasResponse (t : TermsTable) : Bool := t.left.isSome

/-- The evaluation terms of each column: of the response first, if there is one, then of the
terms. -/
def columns (t : TermsTable) : List (List Node) :=
  t.left.toList.map (fun node => [node]) ++ t.terms.map Node.evaluationTerms

/-- All evaluation terms, each once, in the order of their first use. -/
def vocabulary (t : TermsTable) : List Node := firsts Node.same t.columns.flatten

/-! ## Incidence -/

/-- Marks the row of an evaluation term in a column. -/
def markTerm (vocabulary : List Node) (column : Nat) (marks : List (List Bool)) (node : Node) :
    List (List Bool) :=
  match vocabulary.findIdx? fun known => known.same node with
  | some row => marks.modify row fun entries => entries.set column true
  | none => marks

/-- Marks the rows of the evaluation terms of a column, each once. -/
def markColumn (vocabulary : List Node) (marks : List (List Bool)) (column : List Node × Nat) :
    List (List Bool) :=
  (firsts Node.same column.1).foldl (markTerm vocabulary column.2) marks

/-- A matrix without marks. -/
def unmarked (height width : Nat) : List (List Bool) :=
  List.replicate height (List.replicate width false)

/-- The incidence matrix: a row for each evaluation term, an entry for each column.  Column after
column marks the rows of its evaluation terms. -/
def incidence (t : TermsTable) : List (List Bool) :=
  let vocabulary := t.vocabulary
  t.columns.zipIdx.foldl (markColumn vocabulary) (unmarked vocabulary.length t.columns.length)

/-- The evaluation terms of the rows whose marks are as asked for, in the order of the vocabulary. -/
def termsWhere (t : TermsTable) (asked : List Bool → Bool) : List Node :=
  let vocabulary := t.vocabulary
  let rows := (t.incidence.zipIdx.filter fun row => asked row.1).map Prod.snd
  rows.filterMap fun row => vocabulary[row]?

/-- The evaluation terms of a column, in the order of the vocabulary. -/
def evaluationTermsAt (t : TermsTable) (column : Nat) : List Node :=
  t.termsWhere fun marks => marks.getD column false

/-! ## Terms -/

/-- The interaction order of each column; the response has order one. -/
def order (t : TermsTable) : List Nat :=
  t.left.toList.map (fun _ => 1) ++ t.terms.map Node.interactionOrder

/-- The evaluation term of the response. -/
def responseTerm? (t : TermsTable) : Option Node :=
  if t.hasResponse then t.vocabulary.head? else none

/-- The column of the term at a position. -/
def termColumn (t : TermsTable) (position : Nat) : Nat :=
  position + if t.hasResponse then 1 else 0

/-- The terms that are not groupings, each with its column. -/
def fixedTerms (t : TermsTable) : List (Nat × Node) :=
  (t.terms.zipIdx.filter fun p => p.1.isFixedEffect).map fun p => (t.termColumn p.2, p.1)

/-- Builds the table of a formula; the right-hand side is checked before the left. -/
def build (left : Option Node) (right : Node) : Except Failure TermsTable := do
  let expansion ← Expansion.ofNode right
  match left with
  | some node => node.validate
  | none => pure ()
  return { left, right, terms := expansion.terms, intercept := expansion.intercept }

/-- What is logged about a table. -/
def entry (t : TermsTable) : Entry where
  logger := "formula_jax.formulas.terms"
  method := .debug
  message := "Built terms table"
  facts := [("formula", t.right.text), ("n_terms", toString t.terms.length),
    ("n_eval_terms", toString t.vocabulary.length), ("intercept", (Plain.bool t.intercept).shown)]

/-- The terms table of a formula. -/
def ofFormula : Node → Journal TermsTable
  | .formula left right => do
    let table ← build left right
    Journal.record table.entry
    return table
  | node => Journal.fail (.malformed node "Formula")

/-- The formula a table was built from. -/
def formula (t : TermsTable) : Node := .formula t.left t.right

end TermsTable

end ModelFormula
