import ModelFormula.Factor

/-!
# Values of factors

What the rows of a factor hold, however its levels are numbered.

* `Factor.values_keep` — keeping rows keeps their values.
* `Factor.values_dropUnused` — levels that do not occur can be dropped without changing a value.
* `Factor.values_ofMixed` — a factor made of a column holds, in every row, a level of the value that
  the column has there.
* `Factor.values_isNone` — a value is missing exactly where there is no code.
-/

set_option autoImplicit false

namespace ModelFormula.Factor

@[simp] theorem length_values (f : Factor) : f.values.length = f.codes.length := by
  simp [values]

/-- A code points at a level. -/
theorem getElem?_code {f : Factor} {k : Nat} (h : some k ∈ f.codes) :
    ∃ v, f.levels[k]? = some v ∧ v ∈ f.levels := by
  have hk := f.codes_lt k h
  exact ⟨f.levels[k], List.getElem?_eq_getElem hk, List.getElem_mem hk⟩

theorem values_isNone (f : Factor) : f.values.map Option.isNone = f.codes.map Option.isNone := by
  unfold values
  rw [List.map_map]
  refine List.map_congr_left fun c hc => ?_
  cases c with
  | none => rfl
  | some k =>
    obtain ⟨v, hv, -⟩ := getElem?_code hc
    simp [hv]

/-- The values that occur are levels. -/
theorem mem_levels_of_values {f : Factor} {v : Level} (h : some v ∈ f.values) : v ∈ f.levels := by
  obtain ⟨c, -, hc⟩ := List.mem_map.1 h
  obtain ⟨k, -, hk⟩ := Option.bind_eq_some_iff.1 hc
  exact List.mem_of_getElem? hk

theorem hasMissing_iff (f : Factor) : f.hasMissing = true ↔ none ∈ f.values := by
  have marks : none ∈ f.values ↔ true ∈ f.values.map Option.isNone := by simp
  rw [marks, values_isNone]
  simp [hasMissing]

/-! ## Rows -/

theorem values_keep (mask : Mask) (f : Factor) : (f.keep mask).values = mask.keep f.values := by
  unfold values
  rw [Mask.keep_map]
  rfl

/-! ## Levels that do not occur -/

theorem mem_usedCodes {f : Factor} {k : Nat} (h : some k ∈ f.codes) : k ∈ f.usedCodes := by
  refine List.mem_filter.2 ⟨List.mem_range.2 (f.codes_lt k h), ?_⟩
  simpa using h

/-- The levels that occur, by their old positions. -/
theorem getElem?_levelsAt {f : Factor} {positions : List Nat}
    (h : ∀ k ∈ positions, k < f.levels.length) (j : Nat) :
    (f.levelsAt positions)[j]? = (positions[j]?).bind fun k => f.levels[k]? := by
  induction positions generalizing j with
  | nil => rfl
  | cons k positions ih =>
    have hk := h k List.mem_cons_self
    have tail := ih fun i hi => h i (List.mem_cons_of_mem _ hi)
    have unfolded : f.levelsAt (k :: positions) = f.levels[k] :: f.levelsAt positions := by
      rw [levelsAt, List.filterMap_cons, List.getElem?_eq_getElem hk]
      rfl
    rw [unfolded]
    cases j with
    | zero => simp [hk]
    | succ j => simpa using tail j

/-- **Dropping the levels that do not occur changes no value.** -/
theorem values_dropUnused (f : Factor) : f.dropUnused.values = f.values := by
  show (f.codes.map _).map _ = f.codes.map _
  rw [List.map_map]
  refine List.map_congr_left fun c hc => ?_
  cases c with
  | none => rfl
  | some k =>
    show ((f.usedCodes.idxOf? k).bind fun j => (f.levelsAt f.usedCodes)[j]?) = f.levels[k]?
    cases found : f.usedCodes.idxOf? k with
    | none => exact absurd (mem_usedCodes hc) (List.idxOf?_eq_none_iff.1 found)
    | some j =>
      obtain ⟨hj, old, -⟩ := List.idxOf?_eq_some_iff.1 found
      have old' : f.usedCodes[j]? = some k := by rw [List.getElem?_eq_getElem hj, old]
      rw [Option.bind_some, getElem?_levelsAt fun _ => lt_of_mem_usedCodes, old']
      rfl

/-! ## Factors of columns -/

/-- A value among levels of its kind is coded by a level of the same value. -/
theorem code?_of_mem {levels : List Level} {v w : Level} (hw : w ∈ levels)
    (same : w.same v = true) : ∃ k u, code? levels v = some k ∧ levels[k]? = some u ∧
      u.same v = true := by
  cases h : code? levels v with
  | none =>
    have := List.findIdx?_eq_none_iff.1 h w hw
    rw [same] at this
    cases this
  | some k =>
    obtain ⟨hk, hv, -⟩ := List.findIdx?_eq_some_iff_getElem.1 h
    exact ⟨k, levels[k], rfl, List.getElem?_eq_getElem hk, hv⟩

/-- Every value has a level among the listed ones. -/
theorem exists_mem_listed {v : Level} {values : List Level} (h : v ∈ values) :
    ∃ w ∈ listed values, w.same v = true := by
  have trans : ∀ a b c : Level, a.same b = true → b.same c = true → a.same c = true := by
    intro a b c hab hbc
    rw [Level.same_iff] at *
    exact hab.trans hbc
  obtain ⟨w, hw, same⟩ := exists_mem_firsts Level.same_refl trans h
  exact ⟨w, (List.mergeSort_perm _ _).mem_iff.2 hw, same⟩

/-- **A factor made of a column holds the values of the column.** -/
theorem values_ofMixed (cells : List (Option Level)) :
    (ofMixed cells).values.map (Option.map Level.canon) = cells.map (Option.map Level.canon) := by
  show ((cells.map _).map _).map _ = _
  rw [List.map_map, List.map_map]
  refine List.map_congr_left fun cell hcell => ?_
  cases cell with
  | none => rfl
  | some v =>
    have hv : v ∈ cells.filterMap id := List.mem_filterMap.2 ⟨some v, hcell, rfl⟩
    obtain ⟨w, hw, same⟩ := exists_mem_listed hv
    obtain ⟨k, u, hk, hu, same⟩ := code?_of_mem hw same
    show (((code? (listed (cells.filterMap id)) v).bind
      fun k => (listed (cells.filterMap id))[k]?).map Level.canon) = some v.canon
    rw [hk, Option.bind_some, hu, Option.map_some, (Level.same_iff u v).1 same]

end ModelFormula.Factor
