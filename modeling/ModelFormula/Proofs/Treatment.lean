import Mathlib
import ModelFormula.Contrast
import ModelFormula.Proofs.Factor
import ModelFormula.Proofs.FirstFailure
import ModelFormula.Proofs.Levels
import ModelFormula.Proofs.Matrix.Coding

/-!
# Treatment coding

The level of a row can be read off its treatment coding: a row of zeros is one of the base level,
and any other row has its only one at the place of its level among the others.

* `Contrast.getElem?_kept` — the levels that get a column.
* `Contrast.row`, `Contrast.decode` — the row of a code, and the code that a row stands for.
* `Factor.IsTreatment`, `Factor.isTreatment_coded` — what the coding of a factor is.
* `Contrast.SameMatrix`, `Contrast.sameMatrix_treatment` — a contrast matrix in full and by its
  nonzero entries; `Factor.rows_of_treatment` — a coding consists of its rows.
* `Factor.treatment_coding` — when a factor is coded, and how.
-/

set_option autoImplicit false

namespace ModelFormula

namespace Contrast

variable {base : Int}

/-! ## Levels with a column -/

/-- All levels but the base get a column, in their order. -/
theorem kept_eq_eraseIdx (n : Nat) (low : 1 ≤ base) :
    kept n base = (List.range n).eraseIdx (base - 1).toNat := by
  have removed := filterMap_range_ne (List.range n) (base - 1).toNat
  rw [List.length_range, ← kept_eq_filter n low] at removed
  rw [← removed]
  refine ((List.filterMap_congr fun k hk => ?_).trans List.filterMap_some).symm
  have hk : k < n := List.mem_range.1 (List.mem_filter.1 hk).1
  rw [List.getElem?_range hk]

theorem getElem?_kept {n : Nat} (low : 1 ≤ base) (j : Nat) :
    (kept n base)[j]? = (List.range n)[if (j : Int) < base - 1 then j else j + 1]? := by
  rw [kept_eq_eraseIdx n low, List.getElem?_eraseIdx]
  by_cases before : (j : Int) < base - 1
  · rw [if_pos before, if_pos (by omega)]
  · rw [if_neg before, if_neg (by omega)]

theorem length_kept {n : Nat} (low : 1 ≤ base) (high : base ≤ n) :
    (kept n base).length = n - 1 := by
  rw [kept_eq_eraseIdx n low, List.length_eraseIdx_of_lt (by rw [List.length_range]; omega),
    List.length_range]

theorem nodup_kept (n : Nat) (base : Int) : (kept n base).Nodup := List.nodup_range.filter _

/-! ## Rows of a coding -/

/-- The row of a code in a treatment coding of `n` levels. -/
def row (n : Nat) (base : Int) (c : Option Nat) : List Float :=
  (kept n base).map fun k => if c = some k then 1.0 else 0.0

/-- The code that a row stands for: its first one tells the level, and without a one it is that of
the base. -/
def decode (base : Int) (row : List Float) : Nat :=
  match row.findIdx? fun x => decide (x = 1.0) with
  | some j => if (j : Int) < base - 1 then j else j + 1
  | none => (base - 1).toNat

theorem indicates_iff (p : Prop) [Decidable p] : (if p then 1.0 else 0.0 : Float) = 1.0 ↔ p := by
  by_cases h : p
  · simp [h]
  · rw [if_neg h]
    exact ⟨fun same => absurd same (by decide), fun here => absurd here h⟩

/-- **The code of a row can be read off the row.** -/
theorem decode_row {n k : Nat} (low : 1 ≤ base) (hk : k < n) :
    decode base (row n base (some k)) = k := by
  have place : ∀ j, (row n base (some k)).findIdx? (fun x => decide (x = 1.0)) = some j →
      (kept n base)[j]? = some k := by
    intro j found
    obtain ⟨hj, one, -⟩ := List.findIdx?_eq_some_iff_getElem.1 found
    rw [row, List.length_map] at hj
    simp only [row, List.getElem_map, decide_eq_true_eq, indicates_iff] at one
    rw [List.getElem?_eq_getElem hj, one]
  unfold decode
  split
  · rename_i j found
    have at_j := place j found
    rw [getElem?_kept low, List.getElem?_eq_some_iff] at at_j
    obtain ⟨_, at_j⟩ := at_j
    rwa [List.getElem_range] at at_j
  · rename_i nowhere
    -- A level other than the base has a column, and there the row has a one.
    by_contra other
    have mem : k ∈ kept n base := List.mem_filter.2 ⟨List.mem_range.2 hk, by
      rw [decide_eq_true_eq]
      omega⟩
    have zero := List.findIdx?_eq_none_iff.1 nowhere 1.0
      (List.mem_map.2 ⟨k, mem, if_pos rfl⟩)
    simp at zero

/-- Codes with the same row are the same. -/
theorem row_inj {n k l : Nat} (low : 1 ≤ base) (hk : k < n) (hl : l < n)
    (same : row n base (some k) = row n base (some l)) : k = l := by
  rw [← decode_row low hk, same, decode_row low hl]

end Contrast

namespace Factor

variable {f : Factor} {base : Int} {name : String} {b : Block}

/-- What the treatment coding of a factor is. -/
structure IsTreatment (f : Factor) (base : Int) (b : Block) : Prop where
  height : b.height = f.codes.length
  width : b.width + 1 = f.size
  wellShaped : b.WellShaped
  binary : ∀ r < b.height, ∀ j < b.width, b.entry r j = 0.0 ∨ b.entry r j = 1.0
  base_rows : ∀ r, f.codes[r]? = some (some (base - 1).toNat) → ∀ j < b.width, b.entry r j = 0.0
  /-- Any other row has its only one at the place of its level among the levels but the base. -/
  other_rows : ∀ r k, f.codes[r]? = some (some k) → k ≠ (base - 1).toNat → ∃ j < b.width,
    (f.levels.eraseIdx (base - 1).toNat)[j]? = f.levels[k]? ∧
      ∀ i < b.width, b.entry r i = 1.0 ↔ i = j
  rows_eq_iff : ∀ r < b.height, ∀ s < b.height,
    b.rows[r]? = b.rows[s]? ↔ f.values[r]? = f.values[s]?
  decoded : b.rows.map (fun row => some (Contrast.decode base row)) = f.codes

/-- The rows of a coded factor are those of its codes. -/
theorem rows_of_coded (h : f.coded base name = .ok b) :
    b.rows = f.codes.map (Contrast.row f.size base) := by
  obtain ⟨-, -, -, -, rfl⟩ := coded_eq_ok h
  exact Block.rows_table rfl

/-- The code of a row of a factor that has been coded. -/
theorem exists_code_of_coded (h : f.coded base name = .ok b) {r : Nat} (hr : r < b.height) :
    ∃ k < f.size, f.codes[r]? = some (some k) := by
  obtain ⟨complete, -, -, -, rfl⟩ := coded_eq_ok h
  have hr : r < f.codes.length := hr
  cases at_r : f.codes[r] with
  | none => exact absurd (at_r ▸ List.getElem_mem hr) complete
  | some k =>
    refine ⟨k, f.codes_lt k (at_r ▸ List.getElem_mem hr), ?_⟩
    rw [List.getElem?_eq_getElem hr, at_r]

/-- In a column stands whether a row is one of the level of the column. -/
theorem entry_of_coded (h : f.coded base name = .ok b) {r k : Nat}
    (hr : f.codes[r]? = some (some k)) {j : Nat} (hj : j < (Contrast.kept f.size base).length) :
    b.entry r j = if k = (Contrast.kept f.size base)[j] then 1.0 else 0.0 := by
  obtain ⟨-, -, -, -, rfl⟩ := coded_eq_ok h
  refine (Block.entry_table hr (List.getElem?_eq_getElem hj)).trans ?_
  simp only [Option.some.injEq]

theorem width_of_coded (h : f.coded base name = .ok b) :
    b.width = (Contrast.kept f.size base).length := by
  obtain ⟨-, -, -, -, rfl⟩ := coded_eq_ok h
  exact List.length_map _

theorem decoded_of_coded (h : f.coded base name = .ok b) :
    b.rows.map (fun row => some (Contrast.decode base row)) = f.codes := by
  obtain ⟨complete, -, low, -, -⟩ := coded_eq_ok h
  rw [rows_of_coded h, List.map_map]
  refine (List.map_congr_left fun c hc => ?_).trans (List.map_id _)
  cases c with
  | none => exact absurd hc complete
  | some k => exact congrArg some (Contrast.decode_row low (f.codes_lt k hc))

/-- The place of a level among the levels but the base. -/
theorem exists_place (f : Factor) (low : 1 ≤ base) {k : Nat} (hk : k < f.size)
    (other : k ≠ (base - 1).toNat) : ∃ j, ∃ hj : j < (Contrast.kept f.size base).length,
      (Contrast.kept f.size base)[j] = k ∧
        (f.levels.eraseIdx (base - 1).toNat)[j]? = f.levels[k]? := by
  have mem : k ∈ Contrast.kept f.size base := List.mem_filter.2 ⟨List.mem_range.2 hk, by
    rw [decide_eq_true_eq]
    omega⟩
  obtain ⟨j, hj, at_j⟩ := List.getElem_of_mem mem
  refine ⟨j, hj, at_j, ?_⟩
  have place := Contrast.getElem?_kept (n := f.size) low j
  rw [List.getElem?_eq_getElem hj, at_j, eq_comm, List.getElem?_eq_some_iff] at place
  obtain ⟨_, place⟩ := place
  rw [List.getElem_range] at place
  rw [List.getElem?_eraseIdx, ← place]
  by_cases before : (j : Int) < base - 1
  · rw [if_pos before, if_pos (by omega)]
  · rw [if_neg before, if_neg (by omega)]

/-- **The coding of a factor is a treatment coding.** -/
theorem isTreatment_coded (h : f.coded base name = .ok b) : f.IsTreatment base b where
  height := by
    obtain ⟨-, -, -, -, rfl⟩ := coded_eq_ok h
    rfl
  width := by
    obtain ⟨-, many, low, high, -⟩ := coded_eq_ok h
    rw [width_of_coded h, Contrast.length_kept low high]
    omega
  wellShaped := by
    obtain ⟨-, -, -, -, rfl⟩ := coded_eq_ok h
    intro c hc
    obtain ⟨k, -, rfl⟩ := List.mem_map.1 hc
    exact List.length_map _
  binary := by
    intro r hr j hj
    obtain ⟨k, -, at_r⟩ := exists_code_of_coded h hr
    rw [width_of_coded h] at hj
    rw [entry_of_coded h at_r hj]
    split
    · exact .inr rfl
    · exact .inl rfl
  base_rows := by
    intro r at_r j hj
    rw [width_of_coded h] at hj
    have kept := of_decide_eq_true (List.mem_filter.1 (List.getElem_mem hj)).2
    rw [entry_of_coded h at_r hj, if_neg]
    obtain ⟨-, -, low, -, -⟩ := coded_eq_ok h
    intro same
    rw [← same] at kept
    omega
  other_rows := by
    intro r k at_r other
    obtain ⟨-, -, low, -, -⟩ := coded_eq_ok h
    have hk : k < f.size := f.codes_lt k (List.mem_of_getElem? at_r)
    obtain ⟨j, hj, at_j, level⟩ := exists_place f low hk other
    rw [width_of_coded h]
    refine ⟨j, hj, level, fun i hi => ?_⟩
    rw [entry_of_coded h at_r hi, Contrast.indicates_iff, ← at_j]
    exact ((Contrast.nodup_kept f.size base).getElem_inj_iff).trans eq_comm
  rows_eq_iff := by
    intro r hr s hs
    obtain ⟨k, hk, at_r⟩ := exists_code_of_coded h hr
    obtain ⟨l, hl, at_s⟩ := exists_code_of_coded h hs
    obtain ⟨-, -, low, -, -⟩ := coded_eq_ok h
    rw [rows_of_coded h, values, List.getElem?_map, List.getElem?_map, List.getElem?_map,
      List.getElem?_map, at_r, at_s]
    simp only [Option.map_some, Option.some_inj, Option.bind_some]
    constructor
    · intro same
      rw [Contrast.row_inj low hk hl same]
    · intro same
      rw [(List.getElem?_inj hk f.nodup_levels).1 same]
  decoded := decoded_of_coded h

end Factor

/-! ## Contrast matrices -/

namespace Contrast

/-- A matrix in full and one given by nonzero entries have the same shape and the same numbers. -/
structure Agree (dense : Block) (sparse : SparseRows) : Prop where
  height : dense.height = sparse.rows.length
  width : dense.width = sparse.width
  entries : ∀ r < dense.height, ∀ j < dense.width, dense.entry r j = sparse.entry r j

/-- Two ways to a matrix both fail for one reason, or lead to the same matrix. -/
def SameMatrix : Except Failure Block → Except Failure SparseRows → Prop
  | .ok dense, .ok sparse => Agree dense sparse
  | .error e, .error e' => e = e'
  | _, _ => False

/-- The number in a row and a column of indicators. -/
theorem entry_indicators {count r j : Nat} {levels : List Nat} (hr : r < count)
    (hj : j < levels.length) :
    (indicators count levels).entry r j = if r = levels[j] then 1.0 else 0.0 :=
  Block.entry_table (List.getElem?_range hr) (List.getElem?_eq_getElem hj)

theorem entry_indicatorRows {count r j : Nat} {levels : List Nat} (distinct : levels.Nodup)
    (hr : r < count) (hj : j < levels.length) :
    (indicatorRows count levels).entry r j = if r = levels[j] then 1.0 else 0.0 := by
  have at_r : (indicatorRows count levels).rows.getD r [] =
      match levels.idxOf? r with
      | some j => [(j, 1.0)]
      | none => [] := by
    rw [List.getD_eq_getElem?_getD, indicatorRows, List.getElem?_map, List.getElem?_range hr]
    rfl
  rw [SparseRows.entry, at_r]
  cases found : levels.idxOf? r with
  | none =>
    have absent : r ≠ levels[j] := by
      rintro rfl
      exact List.idxOf?_eq_none_iff.1 found (List.getElem_mem hj)
    rw [if_neg absent]
    rfl
  | some i =>
    obtain ⟨hi, at_i, -⟩ := List.idxOf?_eq_some_iff.1 found
    show (Dictionary.get? [(i, (1.0 : Float))] j).getD 0.0 = _
    rw [Dictionary.get?_cons, Dictionary.get?_nil]
    by_cases here : i = j
    · subst here
      rw [if_pos rfl, if_pos at_i.symm]
      rfl
    · rw [if_neg here, if_neg]
      · rfl
      · intro same
        exact here ((distinct.getElem_inj_iff).1 (at_i.trans same))

theorem agree_indicators (count : Nat) {levels : List Nat} (distinct : levels.Nodup) :
    Agree (indicators count levels) (indicatorRows count levels) where
  height := by simp [indicators, indicatorRows]
  width := by simp [indicators, indicatorRows, Block.width]
  entries := by
    intro r hr j hj
    have hr : r < count := hr
    rw [Block.width, indicators, List.length_map] at hj
    rw [entry_indicators hr hj, entry_indicatorRows distinct hr hj]

/-- No level gets two columns. -/
theorem nodup_columnLevels {count base : Int} {contrasts : Bool} {column : Option String}
    {levels : List Nat} (h : columnLevels count contrasts base column = .ok levels) :
    levels.Nodup := by
  unfold columnLevels at h
  cases contrasts with
  | true =>
    obtain ⟨-, -, h⟩ := bind_eq_ok.1 h
    cases h
    exact nodup_kept _ _
  | false =>
    rw [if_neg Bool.false_ne_true] at h
    split at h
    · cases h
    · cases h
      exact List.nodup_range

/-- **Both forms of a contrast matrix say the same**, and are refused for the same reason. -/
theorem sameMatrix_treatment (count : Int) (contrasts : Bool) (base : Int)
    (column : Option String) :
    SameMatrix (treatment count contrasts base column)
      (treatmentSparse count contrasts base column) := by
  unfold treatment treatmentSparse
  cases h : columnLevels count contrasts base column with
  | error e => exact rfl
  | ok levels => exact agree_indicators _ (nodup_columnLevels h)

end Contrast

namespace Factor

variable {f : Factor} {base : Int} {name : String} {b : Block}

/-- The rows of a coded factor are the rows of the contrast matrix that its codes point at. -/
theorem rows_of_treatment (h : f.coded base name = .ok b) : ∃ m : Block,
    Contrast.treatment f.size true base (some name) = .ok m ∧
      ∀ r k : Nat, f.codes[r]? = some (some k) → b.rows[r]? = m.rows[k]? := by
  obtain ⟨-, many, low, high, -⟩ := coded_eq_ok h
  have accepted : Contrast.check f.size base (some name) = .ok () := by
    unfold Contrast.check
    rw [if_neg (by omega), if_pos ⟨low, high⟩]
  refine ⟨Contrast.indicators f.size (Contrast.kept f.size base), ?_, fun r k at_r => ?_⟩
  · unfold Contrast.treatment Contrast.columnLevels
    rw [if_pos rfl, accepted]
    rfl
  · have hk : k < f.size := f.codes_lt k (List.mem_of_getElem? at_r)
    have rows : (Contrast.indicators f.size (Contrast.kept f.size base)).rows =
        (List.range f.size).map fun i => (Contrast.kept f.size base).map fun k =>
          Contrast.indicator k i := Block.rows_table List.length_range
    rw [rows_of_coded h, rows, List.getElem?_map, at_r, List.getElem?_map, List.getElem?_range hk]
    simp only [Option.map_some, Contrast.row, Contrast.indicator, Option.some.injEq]

/-- **Treatment coding is exact and can be undone.**  A factor is refused for missing rows, for
fewer than two levels or for a base that is none of its levels, in this order, and else coded by
rows of the contrast matrix; and this matrix is the same whether it is given in full or by its
nonzero entries. -/
theorem treatment_coding (f : Factor) (base : Int) (name : String) :
    failure? ((Column.factor f).coded base name) =
      (if none ∈ f.codes then
        some (.dataIssue ("categorical column '" ++ name ++ "' contains missing values"))
      else if f.size < 2 then some (.insufficientLevels f.size (some name))
      else if base < 1 ∨ (f.size : Int) < base then some (.invalidBase f.size base (some name))
      else none) ∧
    (∀ b, (Column.factor f).coded base name = .ok b → f.IsTreatment base b ∧
      ∃ m : Block, Contrast.treatment f.size true base (some name) = .ok m ∧
        ∀ r k : Nat, f.codes[r]? = some (some k) → b.rows[r]? = m.rows[k]?) ∧
    ∀ (count : Int) (contrasts : Bool) (column : Option String),
      Contrast.SameMatrix (Contrast.treatment count contrasts base column)
        (Contrast.treatmentSparse count contrasts base column) :=
  ⟨failure?_coded f base name, fun _ h => ⟨isTreatment_coded h, rows_of_treatment h⟩,
    fun count contrasts column => Contrast.sameMatrix_treatment count contrasts base column⟩

/-- Four rows of three doses. -/
def doses : Factor :=
  code [.text "high", .text "low", .text "mid"] (by decide) true
    [some (.text "mid"), some (.text "low"), some (.text "high"), some (.text "low")]

/-- With the second dose as base, the other two get a column each. -/
theorem treatment_coding_doses : ∃ b,
    (Column.factor doses).coded 2 "dose" = .ok b ∧
      b = ⟨4, [[0.0, 0.0, 1.0, 0.0], [1.0, 0.0, 0.0, 0.0]]⟩ ∧ doses.IsTreatment 2 b :=
  ⟨_, rfl, by decide +kernel, ((treatment_coding doses 2 "dose").2.1 _ rfl).1⟩

end Factor

end ModelFormula
