import ModelFormula.Proofs.Frame.Contents

/-!
# Evaluation terms of one text

Evaluation terms are told apart by what they are, and stored by their texts.

* `ModelFrame.ownColumns_iff` — every evaluation term has a column of its own exactly when no two of
  them have one text; in any case its column holds what the last one of its text stands for.
* `ModelFrame.response_nestedSum` — grouped differently, the same sum has the same text, and one side
  of a formula gets the values of the other.
-/

set_option autoImplicit false

namespace ModelFormula.ModelFrame

variable {options : Options} {frame : ModelFrame}

/-- Every evaluation term has a column of its own, with its own values in the kept rows. -/
def OwnColumns (options : Options) (table : Table) (frame : ModelFrame) : Prop :=
  frame.columns.length = frame.terms.vocabulary.length ∧
    ∀ node ∈ frame.terms.vocabulary, Holds options table frame node node

/-- There are as many columns as evaluation terms exactly when these have different texts. -/
theorem length_columns_iff {terms : TermsTable} {source : Source}
    (h : (ofTerms options terms source).outcome = .ok frame) :
    frame.columns.length = terms.vocabulary.length ↔ (terms.vocabulary.map Node.text).Nodup := by
  obtain ⟨table, columns, rfl, resolved, rfl⟩ := ofTerms_eq_ok h
  rw [columns_assemble, List.length_map, (resolveAll_eq_ok resolved).length_eq,
    ← keys_of_resolveAll resolved]
  exact Dictionary.length_putAll_iff columns

/-- **Every evaluation term has a column of its own exactly when no two of them have one text.**
Otherwise a column is shared, and holds what the last evaluation term of its text stands for. -/
theorem ownColumns_iff {formula : Node} {source : Source}
    (h : (build options formula source).outcome = .ok frame) :
    ∃ table, source = .table table ∧
      (OwnColumns options table frame ↔ (frame.terms.vocabulary.map Node.text).Nodup) ∧
      ∀ node ∈ frame.terms.vocabulary, ∃ before last after,
        frame.terms.vocabulary = before ++ last :: after ∧ last.text = node.text ∧
        (∀ later ∈ after, later.text ≠ node.text) ∧ Holds options table frame node last := by
  obtain ⟨left, right, terms, rfl, sides, built⟩ := build_eq_ok h
  have well_formed := TermsTable.wellFormed_of_build sides
  obtain ⟨table, columns, rfl, -, frame_eq⟩ := ofTerms_eq_ok built
  have terms_eq : frame.terms = terms := by rw [frame_eq]; rfl
  rw [← terms_eq] at built well_formed
  refine ⟨table, rfl, ⟨fun own => (length_columns_iff built).1 own.1, fun distinct => ?_⟩,
    fun node hn => holds_last built well_formed hn⟩
  refine ⟨(length_columns_iff built).2 distinct, fun node hn => ?_⟩
  obtain ⟨column, origin, held, found⟩ := column_own built well_formed distinct hn
  exact ⟨_, origin, found, held.source_eq, held.keeps (length_retained built)⟩

/-! ## Sums of one text -/

/-- The sum `a + (b + c)`, as it is written. -/
def nestedSum : Node := .app "I" [.app "+" [.var "a", .app "+" [.var "b", .var "c"]]]

/-- The sum `a + b + c`. -/
def flatSum : Node := .app "I" [.app "+" [.var "a", .var "b", .var "c"]]

/-- Numbers whose sum depends on the order of addition. -/
def absorbingTable : Table where
  columns :=
    [(.text "a", .doubles [1.0e16, 1.0]), (.text "b", .doubles [-1.0e16, 2.0]),
      (.text "c", .doubles [1.0, 3.0])]
  index := [.int 0, .int 1]
  length_eq := by decide

theorem ownColumns_iff_absorbingTable :
    ∃ frame, (build {} (.formula (some nestedSum) flatSum) (.table absorbingTable)).outcome =
      .ok frame ∧ ¬OwnColumns {} absorbingTable frame := by
  have texts : (fun frame : ModelFrame => frame.terms.vocabulary.map Node.text) <$>
      (build {} (.formula (some nestedSum) flatSum) (.table absorbingTable)).outcome =
        .ok ["I(a + b + c)", "I(a + b + c)"] := by
    decide +kernel
  obtain ⟨frame, built, texts⟩ := map_eq_ok.1 texts
  obtain ⟨table, source, own, -⟩ := ownColumns_iff built
  cases source
  exact ⟨frame, built, fun shared => absurd (own.1 shared) (by rw [texts]; decide)⟩

/-- The frame of `I(a + (b + c)) ~ I(a + b + c)` has one column for two evaluation terms, and its
response is not its left-hand side. -/
theorem response_nestedSum :
    ((fun frame => (frame.columns.length, frame.terms.vocabulary.length, frame.response)) <$>
      (build {} (.formula (some nestedSum) flatSum) (.table absorbingTable)).outcome) =
        .ok (1, 2, .ok (.numbers [1.0, 6.0])) ∧
      (evaluateColumn .standard nestedSum (.table absorbingTable)).outcome = .ok [0.0, 6.0] := by
  decide +kernel

end ModelFormula.ModelFrame
