import ModelFormula.Matrix
import ModelFormula.Proofs.Factor
import ModelFormula.Proofs.FirstFailure
import ModelFormula.Proofs.Frame.Cells
import ModelFormula.Proofs.Outcome

/-!
# Codings of columns

What stands in a model matrix for a column of a frame, said by levels and not by codes.

* `Contrast.failure?_check`, `Factor.failure?_coded` — why a factor is not coded, and
  `Factor.coded_eq_ok` — what it is coded as.
* `FrameColumn.coding` — the numbers of a numeric column, or one indicator for each level of a factor
  but the base; `FrameColumn.Codable` — when a column has a coding.
* `FrameColumn.coded_eq_ok` — coding a column gives its coding.
* `ModelMatrix.codedTerm_eq_ok` — coding an evaluation term gives the coding of its column.
-/

set_option autoImplicit false

namespace ModelFormula

/-! ## Lists without one item -/

/-- The items at the positions other than `j`. -/
theorem filterMap_range_ne {α : Type} (xs : List α) (j : Nat) :
    (((List.range xs.length).filter fun k => decide (k ≠ j)).filterMap fun k => xs[k]?) =
      xs.eraseIdx j := by
  induction xs generalizing j with
  | nil => simp
  | cons x xs ih =>
    rw [List.length_cons, List.range_succ_eq_map, List.filter_cons, List.filter_map]
    cases j with
    | zero =>
      have all : ∀ k ∈ List.range xs.length, ((fun k => decide (k ≠ 0)) ∘ Nat.succ) k = true := by
        intro k _
        simp
      rw [if_neg (by simp), List.filter_eq_self.2 all, List.filterMap_map]
      show ((List.range xs.length).filterMap fun k => xs[k]?) = xs
      -- Past the end nothing is left out, so the hypothesis says that all items are there.
      have := ih xs.length
      rw [List.eraseIdx_of_length_le (Nat.le_refl _), List.filter_eq_self.2] at this
      · exact this
      · intro k hk
        have := List.mem_range.1 hk
        simp only [decide_eq_true_eq]
        omega
    | succ j =>
      have shifted : ((fun k => decide (k ≠ j + 1)) ∘ Nat.succ) = fun k => decide (k ≠ j) := by
        funext k
        simp
      rw [if_pos (by simp), shifted, List.filterMap_cons, List.filterMap_map]
      exact congrArg (x :: ·) (ih j)

/-- A function of positions that depends on the items there. -/
theorem map_eq_map_filterMap {α β : Type} {positions : List Nat} {xs : List α} {f : Nat → β}
    {g : α → β} (h : ∀ k ∈ positions, ∃ x, xs[k]? = some x ∧ f k = g x) :
    positions.map f = (positions.filterMap fun k => xs[k]?).map g := by
  induction positions with
  | nil => rfl
  | cons k positions ih =>
    obtain ⟨x, hx, same⟩ := h k List.mem_cons_self
    rw [List.map_cons, List.filterMap_cons, hx, same, ih fun j hj => h j (List.mem_cons_of_mem _ hj)]
    rfl

/-- The levels with a column are all but the one at the place of the base. -/
theorem Contrast.kept_eq_filter {base : Int} (n : Nat) (low : 1 ≤ base) :
    kept n base = (List.range n).filter fun k => decide (k ≠ (base - 1).toNat) := by
  refine List.filter_congr fun k _ => ?_
  simp only [decide_eq_decide]
  omega

/-! ## Refusals -/

/-- Contrasts are refused for the number of levels before they are refused for the base. -/
theorem Contrast.failure?_check (count base : Int) (name : Option String) :
    failure? (check count base name) =
      if count < 2 then some (.insufficientLevels count name)
      else if base < 1 ∨ count < base then some (.invalidBase count base name)
      else none := by
  unfold check
  by_cases few : count < 2
  · rw [if_pos few, if_pos few]
    rfl
  · rw [if_neg few, if_neg few]
    by_cases within : 1 ≤ base ∧ base ≤ count
    · rw [if_pos within, if_neg (by omega)]
      rfl
    · rw [if_neg within, if_pos (by omega)]
      rfl

namespace Factor

variable {f : Factor} {base : Int} {name : String} {b : Block}

theorem hasMissing_iff_codes (f : Factor) : f.hasMissing = true ↔ none ∈ f.codes := by
  simp [hasMissing]

/-- **A factor is refused** for missing rows first, then for its number of levels, then for the
base. -/
theorem failure?_coded (f : Factor) (base : Int) (name : String) :
    failure? (f.coded base name) =
      if none ∈ f.codes then
        some (.dataIssue ("categorical column '" ++ name ++ "' contains missing values"))
      else if f.size < 2 then some (.insufficientLevels f.size (some name))
      else if base < 1 ∨ (f.size : Int) < base then some (.invalidBase f.size base (some name))
      else none := by
  unfold coded
  by_cases missing : none ∈ f.codes
  · rw [if_pos missing, if_pos ((hasMissing_iff_codes f).2 missing)]
    rfl
  · rw [if_neg missing, if_neg fun h => missing ((hasMissing_iff_codes f).1 h)]
    refine (failure?_bind_of_ok ?_).trans ?_
    · intro _ _
      exact ⟨_, rfl⟩
    · rw [Contrast.failure?_check]
      simp only [Nat.cast_lt_ofNat]

theorem coded_eq_ok (h : f.coded base name = .ok b) :
    none ∉ f.codes ∧ 2 ≤ f.size ∧ 1 ≤ base ∧ base ≤ f.size ∧
      b = ⟨f.codes.length, (Contrast.kept f.size base).map fun k =>
        f.codes.map fun c => if c = some k then 1.0 else 0.0⟩ := by
  have accepted : failure? (f.coded base name) = none := by rw [h]; rfl
  rw [failure?_coded] at accepted
  split at accepted
  · cases accepted
  rename_i complete
  split at accepted
  · cases accepted
  split at accepted
  · cases accepted
  refine ⟨complete, by omega, by omega, by omega, ?_⟩
  unfold coded at h
  rw [if_neg fun missing => complete ((hasMissing_iff_codes f).1 missing)] at h
  obtain ⟨-, -, h⟩ := bind_eq_ok.1 h
  cases h
  rfl

end Factor

/-! ## Codings -/

/-- One where a row has a level, zero elsewhere. -/
def indicator (values : List (Option Level)) (level : Level) : List Float :=
  values.map fun v => if v = some level then 1.0 else 0.0

namespace FrameColumn

/-- The columns that code a column: its numbers, or the indicators of all levels but the base, which
is counted from one. -/
def coding (base : Int) : FrameColumn → List (List Float)
  | .numeric values => [values]
  | .factor f => (f.levels.eraseIdx (base - 1).toNat).map (indicator f.values)

/-- Factors are coded if they have two levels, the base is one of them and no row is missing. -/
def Codable (base : Int) : FrameColumn → Prop
  | .numeric _ => True
  | .factor f => 2 ≤ f.size ∧ 1 ≤ base ∧ base ≤ f.size ∧ none ∉ f.values

theorem length_coding {base : Int} {f : Factor} (h : Codable base (.factor f)) :
    (coding base (.factor f)).length = f.size - 1 := by
  obtain ⟨many, low, high, -⟩ := h
  unfold coding
  rw [List.length_map, List.length_eraseIdx_of_lt]
  · rfl
  · show (base - 1).toNat < f.size
    omega

theorem coding_length_pos {base : Int} {c : FrameColumn} (h : c.Codable base) :
    0 < (c.coding base).length := by
  cases c with
  | numeric values => exact Nat.one_pos
  | factor f =>
    have := length_coding h
    have := h.1
    omega

theorem length_of_mem_coding {base : Int} {c : FrameColumn} {column : List Float}
    (h : column ∈ c.coding base) : column.length = c.cells.length := by
  cases c with
  | numeric values => rw [List.mem_singleton.1 h, cells, List.length_map]
  | factor f =>
    obtain ⟨level, -, rfl⟩ := List.mem_map.1 h
    rw [indicator, List.length_map, cells, List.length_map]

/-- The rows of a code are those of its level. -/
theorem code_eq_iff {f : Factor} {c : Option Nat} {k : Nat} {level : Level} (hc : c ∈ f.codes)
    (hk : f.levels[k]? = some level) :
    c = some k ↔ (c.bind fun j => f.levels[j]?) = some level := by
  constructor
  · rintro rfl
    exact hk
  · intro same
    cases c with
    | none => cases same
    | some j =>
      obtain ⟨hj, at_j⟩ := List.getElem?_eq_some_iff.1 same
      obtain ⟨hk, at_k⟩ := List.getElem?_eq_some_iff.1 hk
      have differ := List.pairwise_iff_getElem.1 f.distinct
      rcases Nat.lt_trichotomy j k with h | h | h
      · have := differ j k hj hk h
        rw [at_j, at_k, Level.same_refl] at this
        cases this
      · rw [h]
      · have := differ k j hk hj h
        rw [at_j, at_k, Level.same_refl] at this
        cases this

/-- The columns of the codes are the indicators of the levels. -/
theorem indicators_eq {base : Int} {f : Factor} (low : 1 ≤ base) :
    ((Contrast.kept f.size base).map fun k => f.codes.map fun c => if c = some k then 1.0 else 0.0) =
      coding base (.factor f) := by
  rw [coding, Contrast.kept_eq_filter f.size low, ← filterMap_range_ne f.levels]
  refine map_eq_map_filterMap fun k hk => ?_
  have hk : k < f.levels.length := List.mem_range.1 (List.mem_filter.1 hk).1
  refine ⟨f.levels[k], List.getElem?_eq_getElem hk, ?_⟩
  rw [indicator, Factor.values, List.map_map]
  refine List.map_congr_left fun c hc => ?_
  have same := code_eq_iff hc (List.getElem?_eq_getElem hk)
  show (if c = some k then (1.0 : Float) else 0.0) = if _ then 1.0 else 0.0
  by_cases h : c = some k
  · rw [if_pos h, if_pos (same.1 h)]
  · rw [if_neg h, if_neg fun at_row => h (same.2 at_row)]

/-- **Coding a column gives its coding.** -/
theorem coded_eq_ok {base : Int} {name : String} {c : FrameColumn} {b : Block}
    (h : c.coded base name = .ok b) :
    c.Codable base ∧ b.columns = c.coding base ∧ b.height = c.cells.length := by
  cases c with
  | numeric values =>
    cases h
    exact ⟨trivial, rfl, by simp [Block.ofColumn, cells]⟩
  | factor f =>
    obtain ⟨complete, many, low, high, rfl⟩ := Factor.coded_eq_ok h
    have present : none ∉ f.values := fun none_mem =>
      complete ((Factor.hasMissing_iff_codes f).1 ((Factor.hasMissing_iff f).2 none_mem))
    exact ⟨⟨many, low, high, present⟩, indicators_eq low, by simp [cells]⟩

end FrameColumn

namespace ModelMatrix

/-- Coding an evaluation term gives the coding of its column. -/
theorem codedTerm_eq_ok {frame : ModelFrame} {base : Int} {node : Node} {b : Block}
    (h : codedTerm frame base node = .ok b) : ∃ column, frame.column node = .ok column ∧
      column.Codable base ∧ b.columns = column.coding base ∧ b.height = column.cells.length := by
  obtain ⟨column, found, h⟩ := bind_eq_ok.1 h
  exact ⟨column, found, FrameColumn.coded_eq_ok h⟩

end ModelMatrix

end ModelFormula
