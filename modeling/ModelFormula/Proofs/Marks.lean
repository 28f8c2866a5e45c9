import Mathlib.Data.List.Basic
import ModelFormula.Term.Table

/-!
# Marks of the incidence matrix

Column after column marks the rows of its evaluation terms in a matrix that starts without marks.

* `findIdx?_of_pairwise` — where an item of a list without repetitions is found.
* `entryOf` — an entry of a matrix; `TermsTable.entryOf_markTerm`, `TermsTable.entryOf_markTerms`,
  `TermsTable.entryOf_markColumns` — what marking a term, the terms of a column and all columns does
  to it.
* `TermsTable.incidence_eq` — in the end an entry is marked if its column has the evaluation term.
* `TermsTable.termsWhere_eq`, `TermsTable.evaluationTermsAt_eq` — evaluation terms are read back from
  their marks.
-/

set_option autoImplicit false

namespace ModelFormula

variable {α : Type} {same : α → α → Bool}

/-- In a list without repetitions an item is found where it stands. -/
theorem findIdx?_of_pairwise (symm : ∀ x y, same x y = true → same y x = true)
    (trans : ∀ x y z, same x y = true → same y z = true → same x z = true) {xs : List α} {x e : α}
    {i : Nat} (distinct : xs.Pairwise fun x y => same x y = false) (at_i : xs[i]? = some x)
    (h : same x e = true) : (xs.findIdx? fun y => same y e) = some i := by
  obtain ⟨hi, rfl⟩ := List.getElem?_eq_some_iff.1 at_i
  refine List.findIdx?_eq_some_iff_getElem.2 ⟨hi, h, fun j hj found => ?_⟩
  have differ := List.pairwise_iff_getElem.1 distinct j i (by omega) hi hj
  rw [trans _ _ _ found (symm _ _ h)] at differ
  cases differ

namespace Node

theorem same_symm (x y : Node) (h : x.same y = true) : y.same x = true := by
  rw [same_iff] at *
  exact h.symm

theorem same_trans (x y z : Node) (xy : x.same y = true) (yz : y.same z = true) :
    x.same z = true := by
  rw [same_iff] at *
  exact xy.trans yz

theorem isIn_iff {x : Node} {xs : List Node} : x.isIn xs = true ↔ ∃ y ∈ xs, x.same y = true :=
  List.any_eq_true

/-- Equal nodes are in the same lists. -/
theorem isIn_congr {x y : Node} (h : x.same y = true) (xs : List Node) : x.isIn xs = y.isIn xs := by
  unfold isIn same
  rw [(same_iff x y).1 h]

/-- Repetitions do not matter for what is in a list. -/
theorem isIn_firsts (x : Node) (xs : List Node) : x.isIn (firsts Node.same xs) = x.isIn xs := by
  rw [Bool.eq_iff_iff, isIn_iff, isIn_iff]
  constructor
  · rintro ⟨y, hy, equal⟩
    exact ⟨y, (firsts_sublist _ _).subset hy, equal⟩
  · rintro ⟨y, hy, equal⟩
    obtain ⟨z, hz, first⟩ := exists_mem_firsts (fun x => (same_iff x x).2 rfl) same_trans hy
    exact ⟨z, hz, same_trans _ _ _ equal (same_symm _ _ first)⟩

end Node

/-! ## Entries of a matrix -/

/-- The entry of a matrix at a row and a column. -/
def entryOf (marks : List (List Bool)) (row column : Nat) : Option Bool :=
  (marks[row]?).bind fun entries => entries[column]?

/-- A matrix is known by its height and its entries. -/
theorem eq_of_entryOf {marks others : List (List Bool)} (height : marks.length = others.length)
    (h : ∀ row column, entryOf marks row column = entryOf others row column) : marks = others := by
  refine List.ext_getElem height fun row inside inside' => List.ext_getElem? fun column => ?_
  have equal := h row column
  unfold entryOf at equal
  rwa [List.getElem?_eq_getElem inside, List.getElem?_eq_getElem inside'] at equal

namespace TermsTable

section Marking

variable {vocabulary : List Node} (distinct : vocabulary.Pairwise fun a b => a.same b = false)
variable {row : Nat} {known : Node} (at_row : vocabulary[row]? = some known)

theorem length_markTerm (column : Nat) (marks : List (List Bool)) (node : Node) :
    (markTerm vocabulary column marks node).length = marks.length := by
  unfold markTerm
  split
  · exact List.length_modify ..
  · rfl

theorem length_markColumns (columns : List (List Node × Nat)) (marks : List (List Bool)) :
    (columns.foldl (markColumn vocabulary) marks).length = marks.length := by
  have one : ∀ column marks, (markColumn vocabulary marks column).length = marks.length := by
    intro column marks
    exact List.foldlRecOn _ _ (motive := fun made => made.length = marks.length) rfl
      fun made same node _ => (length_markTerm column.2 made node).trans same
  exact List.foldlRecOn _ _ (motive := fun made => made.length = marks.length) rfl
    fun made same column _ => (one column made).trans same

include distinct at_row

/-- A term marks the entry of the evaluation term that equals it, in its column. -/
theorem entryOf_markTerm (column : Nat) (marks : List (List Bool)) (node : Node) (c : Nat) :
    entryOf (markTerm vocabulary column marks node) row c =
      (entryOf marks row c).map fun mark => mark || (column == c && known.same node) := by
  unfold markTerm entryOf
  split
  · rename_i place found
    obtain ⟨inside, equal, -⟩ := List.findIdx?_eq_some_iff_getElem.1 found
    rw [List.getElem?_modify]
    by_cases here : place = row
    · subst here
      obtain rfl : vocabulary[place] = known := by
        simpa [List.getElem?_eq_getElem inside] using at_row
      rcases marks[place]? with _ | entries
      · rfl
      · by_cases column_eq : column = c
        · subst column_eq
          by_cases wide : column < entries.length <;> simp [equal, wide]
        · have apart : (column == c) = false := beq_eq_false_iff_ne.2 column_eq
          simp [column_eq, apart]
    · -- The entry of another row stays, and so it must, for only one evaluation term is equal.
      have other : known.same node = false := by
        rw [Bool.eq_false_iff]
        intro equal'
        have found' := findIdx?_of_pairwise Node.same_symm Node.same_trans distinct at_row equal'
        rw [found] at found'
        exact here (Option.some.inj found')
      rcases marks[row]? with _ | entries <;> simp [here, other]
  · rename_i missing
    have other : known.same node = false := by
      rw [Bool.eq_false_iff]
      intro equal
      have inside := List.mem_of_getElem? at_row
      exact Bool.eq_false_iff.1 (List.findIdx?_eq_none_iff.1 missing known inside) equal
    simp [other]

/-- The terms of a column mark the entry of an evaluation term if one of them equals it. -/
theorem entryOf_markTerms (column : Nat) (nodes : List Node) (marks : List (List Bool)) (c : Nat) :
    entryOf (nodes.foldl (markTerm vocabulary column) marks) row c =
      (entryOf marks row c).map fun mark => mark || (column == c && known.isIn nodes) := by
  induction nodes generalizing marks with
  | nil => simp [Node.isIn]
  | cons node nodes ih =>
    rw [List.foldl_cons, ih, entryOf_markTerm distinct at_row, Option.map_map]
    congr 1
    funext mark
    cases mark <;> cases column == c <;> simp [Node.isIn]

/-- All columns mark the entry if one of them is its column and has the evaluation term. -/
theorem entryOf_markColumns (columns : List (List Node × Nat)) (marks : List (List Bool)) (c : Nat) :
    entryOf (columns.foldl (markColumn vocabulary) marks) row c =
      (entryOf marks row c).map fun mark =>
        mark || columns.any fun column => column.2 == c && known.isIn column.1 := by
  induction columns generalizing marks with
  | nil => simp
  | cons column columns ih =>
    rw [List.foldl_cons, ih, markColumn, entryOf_markTerms distinct at_row, Option.map_map]
    congr 1
    funext mark
    simp [Node.isIn_firsts, Bool.or_assoc]

end Marking

variable (t : TermsTable)

theorem distinct_vocabulary :
    t.vocabulary.Pairwise fun a b => a.same b = false := firsts_pairwise _ _

/-- **An entry of the incidence matrix** is marked if its column has its evaluation term. -/
theorem incidence_eq :
    t.incidence = t.vocabulary.map fun node => t.columns.map fun column => node.isIn column := by
  refine eq_of_entryOf (by simp [incidence, length_markColumns, unmarked]) fun row c => ?_
  by_cases inside : row < t.vocabulary.length
  · have at_row := List.getElem?_eq_getElem inside
    unfold incidence
    rw [entryOf_markColumns t.distinct_vocabulary at_row]
    unfold entryOf unmarked
    rw [List.getElem?_map, at_row, List.getElem?_replicate_of_lt inside]
    show (List.replicate t.columns.length false)[c]?.map _ = (t.columns.map _)[c]?
    rw [List.getElem?_map]
    by_cases wide : c < t.columns.length
    · have at_column := List.getElem?_eq_getElem wide
      rw [List.getElem?_replicate_of_lt wide, at_column]
      simp only [Option.map_some, Bool.false_or, Option.some.injEq]
      rw [Bool.eq_iff_iff, List.any_eq_true]
      constructor
      · rintro ⟨⟨nodes, place⟩, hp, marked⟩
        obtain ⟨rfl, here⟩ : place = c ∧ _ := by simpa using marked
        have found := List.mk_mem_zipIdx_iff_getElem?.1 hp
        rw [at_column] at found
        rwa [Option.some.inj found]
      · intro here
        exact ⟨(t.columns[c], c), List.mk_mem_zipIdx_iff_getElem?.2 at_column, by simpa using here⟩
    · simp [wide]
  · have outside : t.vocabulary.length ≤ row := Nat.le_of_not_lt inside
    unfold entryOf
    rw [List.getElem?_eq_none (by simpa [incidence, length_markColumns, unmarked] using outside),
      List.getElem?_eq_none (by simpa using outside)]

/-- The mark of a row in a column tells whether the column has the evaluation term. -/
theorem getD_marks (node : Node) (column : Nat) :
    (t.columns.map fun column => node.isIn column).getD column false =
      node.isIn (t.columns.getD column []) := by
  rw [List.getD_eq_getElem?_getD, List.getD_eq_getElem?_getD, List.getElem?_map]
  cases t.columns[column]? <;> rfl

/-- **Read back from the marks** are evaluation terms by the columns that have them. -/
theorem termsWhere_eq (asked : List Bool → Bool) :
    t.termsWhere asked =
      t.vocabulary.filter fun node => asked (t.columns.map fun column => node.isIn column) := by
  let kept (node : Node) : Bool := asked (t.columns.map fun column => node.isIn column)
  have back : ∀ p ∈ t.vocabulary.zipIdx.filter (kept ∘ Prod.fst),
      ((fun row => t.vocabulary[row]?) ∘ Prod.snd) p = some p.1 := by
    intro p hp
    exact List.mk_mem_zipIdx_iff_getElem?.1 (List.mem_filter.1 hp).1
  have rows : ((t.incidence.zipIdx.filter fun row => asked row.1).map Prod.snd) =
      (t.vocabulary.zipIdx.filter (kept ∘ Prod.fst)).map Prod.snd := by
    rw [incidence_eq, List.zipIdx_map, List.filter_map, List.map_map]
    rfl
  simp only [termsWhere, rows, List.filterMap_map]
  rw [List.filterMap_congr back, List.filterMap_eq_map', ← List.filter_map, List.zipIdx_map_fst]

theorem evaluationTermsAt_eq (column : Nat) :
    t.evaluationTermsAt column =
      t.vocabulary.filter fun node => node.isIn (t.columns.getD column []) := by
  simp only [evaluationTermsAt, termsWhere_eq, getD_marks]

end TermsTable

end ModelFormula
