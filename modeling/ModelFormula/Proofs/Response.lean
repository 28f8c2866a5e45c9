import ModelFormula.Proofs.Incidence

/-!
# The response in a terms table

The left-hand side of a formula comes first in its table: it has a column of its own, and it is the
first evaluation term.  Everything else moves along.

* `TermsTable.withoutResponse` — the table of the right-hand side alone.
* `TermsTable.columns_eq`, `TermsTable.vocabulary_eq`, `TermsTable.fixedTerms_eq` — what the response
  puts in front, and what moves along.
* `TermsTable.Marks` — the evaluation terms that are marked in a column; `TermsTable.marks_iff` — they
  are those of the column.
* `TermsTable.Prefixed` — a table is another one with a response in front;
  `TermsTable.prefixed_withoutResponse`.
* `TermsTable.vocabulary_of_new`, `TermsTable.evaluationTermsAt_of_new` — a response that is no
  evaluation term of the right-hand side is one more, and the terms have the same ones.
-/

set_option autoImplicit false

namespace ModelFormula.TermsTable

variable {t : TermsTable} {left : Node}

/-- The table of the right-hand side alone. -/
def withoutResponse (t : TermsTable) : TermsTable := { t with left := none }

/-! ## What comes in front -/

theorem columns_eq (h : t.left = some left) : t.columns = [left] :: t.withoutResponse.columns := by
  unfold columns withoutResponse
  rw [h]
  rfl

theorem vocabulary_eq (h : t.left = some left) : t.vocabulary =
    left :: t.withoutResponse.vocabulary.filter fun node => !left.same node := by
  unfold vocabulary
  rw [columns_eq h]
  rfl

theorem termColumn_eq (h : t.left = some left) (k : Nat) :
    t.termColumn k = t.withoutResponse.termColumn k + 1 := by
  unfold termColumn hasResponse withoutResponse
  rw [h]
  rfl

/-- The terms that are not groupings stand one column further to the right. -/
theorem fixedTerms_eq (h : t.left = some left) : t.fixedTerms =
    t.withoutResponse.fixedTerms.map fun p => (p.1 + 1, p.2) := by
  unfold fixedTerms
  rw [List.map_map]
  refine List.map_congr_left fun p _ => ?_
  rw [termColumn_eq h]
  rfl

/-! ## Marked evaluation terms -/

/-- The evaluation term is marked in the column, or one that equals it. -/
def Marks (t : TermsTable) (column : Nat) (node : Node) : Prop :=
  ∃ row known, t.vocabulary[row]? = some known ∧ known.same node = true ∧
    t.mark row column = some true

/-- Marked are the evaluation terms of the column. -/
theorem marks_iff {column : Nat} {nodes : List Node} (at_column : t.columns[column]? = some nodes)
    (node : Node) : t.Marks column node ↔ node.isIn nodes = true := by
  constructor
  · rintro ⟨row, known, at_row, same, marked⟩
    rw [mark_eq at_row at_column, Node.isIn_congr same] at marked
    exact Option.some.inj marked
  · intro here
    obtain ⟨e, he, same⟩ := Node.isIn_iff.1 here
    obtain ⟨known, hk, equal⟩ := exists_mem_vocabulary (List.mem_of_getElem? at_column) he
    obtain ⟨row, at_row⟩ := List.mem_iff_getElem?.1 hk
    refine ⟨row, known, at_row, Node.same_trans _ _ _ equal (Node.same_symm _ _ same), ?_⟩
    rw [mark_eq at_row at_column]
    exact congrArg some (Node.isIn_iff.2 ⟨e, he, equal⟩)

/-- The table `two` is the table `one` with a response in front. -/
structure Prefixed (left : Node) (one two : TermsTable) : Prop where
  response : one.left = none ∧ two.left = some left
  terms : two.terms = one.terms
  intercept : two.intercept = one.intercept
  order : two.order = 1 :: one.order
  /-- An evaluation term of the right-hand side that equals the response is not listed again. -/
  vocabulary : two.vocabulary = left :: one.vocabulary.filter fun node => !left.same node
  /-- The columns of a term mark the same evaluation terms. -/
  marks : ∀ k < one.terms.length, ∀ node,
    two.Marks (two.termColumn k) node ↔ one.Marks (one.termColumn k) node

theorem prefixed_withoutResponse (h : t.left = some left) : Prefixed left t.withoutResponse t where
  response := ⟨rfl, h⟩
  terms := rfl
  intercept := rfl
  order := by
    unfold order withoutResponse
    rw [h]
    rfl
  vocabulary := vocabulary_eq h
  marks := by
    intro k hk node
    have term : t.terms[k]? = some t.terms[k] := List.getElem?_eq_getElem hk
    have at_two := columns_termColumn t k
    have at_one := columns_termColumn t.withoutResponse k
    rw [term] at at_two
    rw [show t.withoutResponse.terms[k]? = some t.terms[k] from term] at at_one
    rw [marks_iff at_two, marks_iff at_one]

/-! ## A response that is no evaluation term of the right-hand side -/

theorem columns_getD_succ (h : t.left = some left) (column : Nat) :
    t.columns.getD (column + 1) [] = t.withoutResponse.columns.getD column [] := by
  rw [columns_eq h]
  rfl

/-- What no evaluation term equals is in no column. -/
theorem isIn_column_of_new {node : Node} (new : node.isIn t.vocabulary = false) (column : Nat) :
    node.isIn (t.columns.getD column []) = false := by
  rw [Bool.eq_false_iff]
  intro here
  rw [List.getD_eq_getElem?_getD] at here
  cases at_column : t.columns[column]? with
  | none =>
    rw [at_column] at here
    cases here
  | some nodes =>
    rw [at_column] at here
    obtain ⟨e, he, same⟩ := Node.isIn_iff.1 here
    obtain ⟨known, hk, equal⟩ := exists_mem_vocabulary (List.mem_of_getElem? at_column) he
    have listed : node.isIn t.vocabulary = true :=
      Node.isIn_iff.2 ⟨known, hk, Node.same_trans _ _ _ same (Node.same_symm _ _ equal)⟩
    rw [listed] at new
    cases new

section New

variable (h : t.left = some left) (new : left.isIn t.withoutResponse.vocabulary = false)

include h new

theorem vocabulary_of_new : t.vocabulary = left :: t.withoutResponse.vocabulary := by
  rw [vocabulary_eq h, List.filter_eq_self.2]
  intro node hn
  have differs : ¬left.same node = true := fun same => by
    rw [Node.isIn_iff.2 ⟨node, hn, same⟩] at new
    cases new
  simpa using differs

theorem evaluationTermsAt_of_new (column : Nat) :
    t.evaluationTermsAt (column + 1) = t.withoutResponse.evaluationTermsAt column := by
  rw [evaluationTermsAt_eq, evaluationTermsAt_eq, vocabulary_of_new h new, columns_getD_succ h,
    List.filter_cons_of_neg (by rw [isIn_column_of_new new]; decide)]

end New

end ModelFormula.TermsTable
