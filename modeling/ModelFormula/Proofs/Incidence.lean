import ModelFormula.Proofs.Expansion
import ModelFormula.Proofs.Rows

/-!
# Vocabulary and incidence

What a terms table says of its evaluation terms: which there are, and which term uses which.

* `AreFirsts` — the first occurrences in a list, by their positions; `areFirsts_firsts`.
* `TermsTable.mark` — an entry of the incidence matrix; `TermsTable.mark_eq`,
  `TermsTable.mark_iff_findIdx?` — it tells whether a column has an evaluation term, or whether one of
  the column is found at that place of the vocabulary.
* `TermsTable.Consistent` — vocabulary, incidence matrix and fixed effects fit the terms.
* `TermsTable.consistent_ofFormula` — so they do in the table of every well-formed formula.
-/

set_option autoImplicit false

namespace ModelFormula

variable {α : Type} {same : α → α → Bool}

/-! ## First occurrences -/

/-- The items of `ys` are the first occurrences in `xs`, in their order: they stand at the positions
before which nothing is the same. -/
def AreFirsts (same : α → α → Bool) (xs ys : List α) : Prop :=
  ∃ positions : List Nat, positions.Pairwise (· < ·) ∧ ys = select positions xs ∧
    ∀ i, i ∈ positions ↔
      ∃ x, xs[i]? = some x ∧ ∀ j < i, ∀ y, xs[j]? = some y → same y x = false

theorem areFirsts_firsts (same : α → α → Bool) (xs : List α) :
    AreFirsts same xs (firsts same xs) := by
  induction xs with
  | nil => exact ⟨[], List.Pairwise.nil, rfl, fun i => by simp⟩
  | cons x xs ih =>
    obtain ⟨positions, increasing, items, first⟩ := ih
    -- Later items stay first unless they are the same as the new one.
    let others := positions.filter fun i => xs[i]?.any fun y => !same x y
    refine ⟨0 :: others.map (· + 1), ?_, ?_, ?_⟩
    · apply List.Pairwise.cons
      · intro i hi
        obtain ⟨j, -, rfl⟩ := List.mem_map.1 hi
        omega
      · exact List.pairwise_map.2 ((increasing.filter _).imp fun h => Nat.add_lt_add_right h 1)
    · rw [firsts, items, filter_select, select_cons (Nat.zero_lt_succ _), select_succ]
      rfl
    · intro i
      cases i with
      | zero => simp
      | succ i =>
        have kept : i + 1 ∈ 0 :: others.map (· + 1) ↔ i ∈ others := by simp
        rw [kept, List.mem_filter, first]
        constructor
        · rintro ⟨⟨z, hz, before⟩, new⟩
          rw [hz] at new
          refine ⟨z, hz, fun j hj y hy => ?_⟩
          cases j with
          | zero =>
            cases hy
            simpa using new
          | succ j => exact before j (by omega) y hy
        · rintro ⟨z, hz, before⟩
          have hz : xs[i]? = some z := hz
          refine ⟨⟨z, hz, fun j hj y hy => before (j + 1) (by omega) y hy⟩, ?_⟩
          rw [hz]
          simpa using before 0 (by omega) x rfl

namespace TermsTable

variable {t : TermsTable}

/-! ## Vocabulary -/

/-- The evaluation terms of all columns, one after the other. -/
theorem flatten_columns (t : TermsTable) :
    t.columns.flatten = t.left.toList ++ t.terms.flatMap Node.evaluationTerms := by
  unfold columns
  rw [List.flatten_append, ← List.flatMap_def]
  cases t.left <;> rfl

/-- An evaluation term of a column is in the vocabulary. -/
theorem exists_mem_vocabulary {column : List Node} (hc : column ∈ t.columns) {node : Node}
    (hn : node ∈ column) : ∃ known ∈ t.vocabulary, known.same node = true :=
  exists_mem_firsts (fun x => (Node.same_iff x x).2 rfl) Node.same_trans
    (List.mem_flatten.2 ⟨column, hc, hn⟩)

/-! ## Entries -/

/-- The entry of the incidence matrix for an evaluation term and a column. -/
def mark (t : TermsTable) (row column : Nat) : Option Bool := entryOf t.incidence row column

/-- An entry tells whether the column has the evaluation term. -/
theorem mark_eq {row column : Nat} {node : Node} {nodes : List Node}
    (at_row : t.vocabulary[row]? = some node) (at_column : t.columns[column]? = some nodes) :
    t.mark row column = some (node.isIn nodes) := by
  rw [mark, incidence_eq, entryOf, List.getElem?_map, at_row]
  show (t.columns.map fun nodes => node.isIn nodes)[column]? = _
  rw [List.getElem?_map, at_column]
  rfl

/-- An entry is set exactly if an evaluation term of the column is found at its place of the
vocabulary. -/
theorem mark_iff_findIdx? {row column : Nat} {nodes : List Node}
    (at_column : t.columns[column]? = some nodes) :
    t.mark row column = some true ↔
      ∃ e ∈ nodes, (t.vocabulary.findIdx? fun known => known.same e) = some row := by
  constructor
  · intro marked
    obtain ⟨marks, at_row, -⟩ := Option.bind_eq_some_iff.1 marked
    obtain ⟨hr, -⟩ := List.getElem?_eq_some_iff.1 at_row
    have hr : row < t.vocabulary.length := by simpa [incidence_eq] using hr
    have at_row := List.getElem?_eq_getElem hr
    rw [mark_eq at_row at_column] at marked
    obtain ⟨e, he, same⟩ := Node.isIn_iff.1 (Option.some.inj marked)
    exact ⟨e, he, findIdx?_of_pairwise Node.same_symm Node.same_trans t.distinct_vocabulary at_row
      same⟩
  · rintro ⟨e, he, found⟩
    obtain ⟨hr, same, -⟩ := List.findIdx?_eq_some_iff_getElem.1 found
    rw [mark_eq (List.getElem?_eq_getElem hr) at_column]
    exact congrArg some (Node.isIn_iff.2 ⟨e, he, same⟩)

/-- Every evaluation term belongs to some column. -/
theorem true_mem_of_mem_incidence {marks : List Bool} (h : marks ∈ t.incidence) : true ∈ marks := by
  rw [incidence_eq] at h
  obtain ⟨node, hn, rfl⟩ := List.mem_map.1 h
  obtain ⟨column, hc, here⟩ := List.mem_flatten.1 ((firsts_sublist _ _).subset hn)
  refine List.mem_map.2 ⟨column, hc, Node.isIn_iff.2 ⟨node, here, ?_⟩⟩
  exact (Node.same_iff node node).2 rfl

/-- The column of the response marks the first evaluation term only. -/
theorem mark_response {left : Node} (h : t.left = some left) {row : Nat}
    (hr : row < t.vocabulary.length) : t.mark row 0 = some (decide (row = 0)) := by
  have first : t.vocabulary[0]? = some left := by
    have response := t.responseTerm?_eq
    unfold responseTerm? hasResponse at response
    rw [h, Option.isSome_some, if_pos rfl, List.head?_eq_getElem?] at response
    exact response
  have at_column : t.columns[0]? = some [left] := by
    unfold columns
    rw [h]
    rfl
  rw [mark_eq (List.getElem?_eq_getElem hr) at_column]
  congr 1
  obtain ⟨h0, first⟩ := List.getElem?_eq_some_iff.1 first
  by_cases zero : row = 0
  · subst zero
    simp [Node.isIn, first, (Node.same_iff left left).2 rfl]
  · have differ := List.pairwise_iff_getElem.1 t.distinct_vocabulary 0 row h0 hr (by omega)
    have other : t.vocabulary[row].same left = false := by
      rw [first] at differ
      rw [Bool.eq_false_iff] at differ ⊢
      exact fun found => differ (Node.same_symm _ _ found)
    simp [Node.isIn, other, zero]

/-! ## Evaluation terms of a term -/

/-- An evaluation term of a column is known by one that equals it. -/
theorem isIn_distinctTerms {term : Node} (h : term ∈ t.terms) (node : Node) :
    node.isIn (t.distinctTerms term) = node.isIn term.evaluationTerms := by
  have column : term.evaluationTerms ∈ t.columns :=
    List.mem_append_right _ (List.mem_map_of_mem h)
  rw [Bool.eq_iff_iff, Node.isIn_iff]
  constructor
  · rintro ⟨known, hk, same⟩
    rw [Node.isIn_congr same]
    exact (List.mem_filter.1 hk).2
  · intro here
    obtain ⟨e, he, same⟩ := Node.isIn_iff.1 here
    obtain ⟨known, hk, equal⟩ := exists_mem_vocabulary column he
    refine ⟨known, List.mem_filter.2 ⟨hk, Node.isIn_iff.2 ⟨e, he, equal⟩⟩, ?_⟩
    exact Node.same_trans _ _ _ same (Node.same_symm _ _ equal)

/-- The evaluation terms of a column are the marked ones. -/
theorem evaluationTermsAt_eq_keep {column : Nat} (h : column < t.columns.length) :
    t.evaluationTermsAt column =
      Mask.keep (t.incidence.map fun marks => marks.getD column false) t.vocabulary := by
  have filtered : ∀ (p : Node → Bool) (nodes : List Node),
      nodes.filter p = Mask.keep (nodes.map p) nodes := by
    intro p nodes
    induction nodes with
    | nil => rfl
    | cons node nodes ih =>
      rw [List.filter_cons, List.map_cons, ih]
      cases p node <;> rfl
  rw [evaluationTermsAt_eq, incidence_eq, filtered, List.map_map]
  congr 1
  refine List.map_congr_left fun node _ => ?_
  simp [h]

/-! ## The table of a formula -/

/-- The vocabulary, the incidence matrix and the fixed effects of a table fit its terms. -/
structure Consistent (t : TermsTable) : Prop where
  distinct : t.vocabulary.Pairwise fun a b => a.same b = false
  first : AreFirsts Node.same (t.left.toList ++ t.terms.flatMap Node.evaluationTerms) t.vocabulary
  columns : t.columns = t.left.toList.map (fun node => [node]) ++ t.terms.map Node.evaluationTerms
  height : t.incidence.length = t.vocabulary.length
  width : ∀ marks ∈ t.incidence, marks.length = t.columns.length
  /-- An entry is one if the evaluation term equals one of the column, else zero. -/
  entry : ∀ row column node nodes, t.vocabulary[row]? = some node → t.columns[column]? = some nodes →
    t.mark row column = some (decide (∃ e ∈ nodes, node.same e = true))
  /-- The entries that are one are at the places where the evaluation terms of a column are found. -/
  place : ∀ row column nodes, t.columns[column]? = some nodes → (t.mark row column = some true ↔
    ∃ e ∈ nodes, (t.vocabulary.findIdx? fun known => known.same e) = some row)
  covered : ∀ marks ∈ t.incidence, true ∈ marks
  response : ∀ left, t.left = some left → t.responseTerm? = some left ∧
    ∀ row < t.vocabulary.length, t.mark row 0 = some (decide (row = 0))
  /-- A term has, in the order of the vocabulary, its evaluation terms, each once. -/
  evaluation_terms : ∀ k term, t.terms[k]? = some term →
    t.columns[t.termColumn k]? = some term.evaluationTerms ∧
    t.evaluationTermsAt (t.termColumn k) =
      Mask.keep (t.incidence.map fun marks => marks.getD (t.termColumn k) false) t.vocabulary ∧
    (t.evaluationTermsAt (t.termColumn k)).Pairwise (fun a b => a.same b = false) ∧
    ∀ node : Node, node.isIn (t.evaluationTermsAt (t.termColumn k)) =
      node.isIn term.evaluationTerms
  fixed : t.fixedTerms.map Prod.snd = t.terms.filter fun term => !term.isCallOf "|"
  fixed_columns : (t.fixedTerms.map Prod.fst).Pairwise (· < ·)
  fixed_iff : ∀ column term, (column, term) ∈ t.fixedTerms ↔
    ∃ k, t.terms[k]? = some term ∧ term.isCallOf "|" = false ∧ column = t.termColumn k

theorem pairwise_fixedTerms (t : TermsTable) :
    (t.fixedTerms.map Prod.fst).Pairwise (· < ·) := by
  unfold fixedTerms
  rw [List.map_map, List.pairwise_map]
  have increasing : t.terms.zipIdx.Pairwise fun p q => p.2 < q.2 := by
    rw [← List.pairwise_map, List.zipIdx_map_snd]
    exact List.pairwise_lt_range'
  refine (increasing.filter _).imp fun {p q} h => ?_
  show t.termColumn p.2 < t.termColumn q.2
  unfold termColumn
  omega

theorem consistent (t : TermsTable) : Consistent t where
  distinct := t.distinct_vocabulary
  first := by
    rw [← flatten_columns]
    exact areFirsts_firsts Node.same t.columns.flatten
  columns := rfl
  height := by rw [incidence_eq, List.length_map]
  width := by
    intro marks hm
    rw [incidence_eq] at hm
    obtain ⟨node, -, rfl⟩ := List.mem_map.1 hm
    exact List.length_map _
  entry := by
    intro row column node nodes at_row at_column
    rw [mark_eq at_row at_column, Option.some.injEq, Bool.eq_iff_iff, decide_eq_true_eq]
    exact Node.isIn_iff
  place := fun _ _ _ at_column => mark_iff_findIdx? at_column
  covered := fun _ => true_mem_of_mem_incidence
  response := by
    intro left h
    exact ⟨(responseTerm?_eq t).trans h, fun row hr => mark_response h hr⟩
  evaluation_terms := by
    intro k term hk
    have at_column : t.columns[t.termColumn k]? = some term.evaluationTerms := by
      rw [columns_termColumn, hk]
      rfl
    refine ⟨at_column, ?_, ?_, ?_⟩
    · exact evaluationTermsAt_eq_keep (List.getElem?_eq_some_iff.1 at_column).1
    · rw [evaluationTermsAt_eq]
      exact t.distinct_vocabulary.filter _
    · intro node
      rw [evaluationTermsAt_termColumn hk]
      exact isIn_distinctTerms (List.mem_of_getElem? hk) node
  fixed := fixedTerms_map_snd t
  fixed_columns := pairwise_fixedTerms t
  fixed_iff := by
    intro column term
    rw [mem_fixedTerms]
    simp [Node.isFixedEffect]

/-- A well-formed formula has a table. -/
theorem build_of_wellFormed {left : Option Node} {right : Node}
    (hl : ∀ node, left = some node → node.wellFormed = true) (hr : right.wellFormed = true) :
    ∃ x, Expansion.ofNode right = .ok x ∧
      build left right = .ok { left, right, terms := x.terms, intercept := x.intercept } := by
  obtain ⟨x, expanded⟩ := Expansion.exists_ofNode hr
  refine ⟨x, expanded, ?_⟩
  unfold build
  rw [expanded]
  cases left with
  | none => rfl
  | some node =>
    have valid := (Node.validate_eq_ok_iff node).2 (hl node rfl)
    show (node.validate >>= _) = _
    rw [valid]
    rfl

theorem outcome_ofFormula (left : Option Node) (right : Node) :
    (ofFormula (.formula left right)).outcome = build left right := by
  unfold ofFormula
  rw [Journal.outcome_bind]
  show (build left right >>= _) = _
  cases build left right <;> rfl

/-- **The table of a well-formed formula** has the terms of its right-hand side, and its vocabulary,
incidence matrix and fixed effects fit them. -/
theorem consistent_ofFormula {left : Option Node} {right : Node}
    (hl : ∀ node, left = some node → node.wellFormed = true) (hr : right.wellFormed = true) :
    ∃ t x, (ofFormula (.formula left right)).outcome = .ok t ∧ Expansion.ofNode right = .ok x ∧
      t.left = left ∧ t.terms = x.terms ∧ t.intercept = x.intercept ∧ t.Consistent := by
  obtain ⟨x, expanded, built⟩ := build_of_wellFormed hl hr
  refine ⟨{ left, right, terms := x.terms, intercept := x.intercept }, x, ?_, expanded, rfl, rfl, rfl,
    consistent _⟩
  rw [outcome_ofFormula, built]

/-- The sum `a + y + (1 | a) + y&(a + 2)`. -/
def sharedSum : Node :=
  .app "+" [.var "a", .var "y", .app "|" [.literal (.int 1), .var "a"],
    .app "&" [.var "y", .app "+" [.var "a", .literal (.int 2)]]]

/-- The formula `y ~ a + y + (1 | a) + y&(a + 2)`, whose left-hand side is also used on the right. -/
theorem consistent_ofFormula_sharedSum : ∃ t,
    (ofFormula (.formula (some (.var "y")) sharedSum)).outcome = .ok t ∧ t.Consistent ∧
    t.incidence = [[true, false, true, false, true], [false, true, false, true, true]] := by
  have marks : TermsTable.incidence <$>
      (ofFormula (.formula (some (.var "y")) sharedSum)).outcome =
        .ok [[true, false, true, false, true], [false, true, false, true, true]] := by
    cbv
  have hl : ∀ node, some (Node.var "y") = some node → node.wellFormed = true := by
    intro node same
    cases same
    decide
  have hr : sharedSum.wellFormed = true := by decide
  obtain ⟨t, -, built, -, -, -, -, consistent⟩ := consistent_ofFormula hl hr
  rw [built] at marks
  exact ⟨t, built, consistent, Except.ok.inj marks⟩

end TermsTable

end ModelFormula
