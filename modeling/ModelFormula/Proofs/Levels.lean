import Mathlib
import ModelFormula.Proofs.Rows

/-!
# Levels that occur

A factor without unused levels is settled by its values and by the order of the levels that they came
from, so it does not matter when the unused ones are dropped.

* `Factor.ext_values` — a factor is its levels and its values.
* `Factor.levels_dropUnused`, `Factor.dropUnused_eq_self` — the levels that are left, and when these
  are all.
* `Factor.dropUnused_select_dropUnused`, `Factor.select_dropUnused_of_perm` — dropping levels before
  rows are selected.
* `Factor.dropUnused_ofMixed_select` — the factor of some rows of a column of texts is the factor of
  all rows, at these: its levels are sorted and not listed as they first occur.
-/

set_option autoImplicit false

namespace ModelFormula.Factor

/-! ## Levels and values -/

theorem nodup_levels (f : Factor) : f.levels.Nodup := by
  refine f.distinct.imp fun {v w} differ same => ?_
  rw [same, Level.same_refl] at differ
  cases differ

/-- The code of a row is the position of its level. -/
theorem code_of_levels {f : Factor} {c : Option Nat} (hc : c ∈ f.codes) :
    (c.bind fun k => f.levels[k]?).bind f.levels.idxOf? = c := by
  cases c with
  | none => rfl
  | some k =>
    have hk := f.codes_lt k hc
    rw [Option.bind_some, List.getElem?_eq_getElem hk, Option.bind_some]
    refine List.idxOf?_eq_some_iff.2 ⟨hk, rfl, fun j hj same => ?_⟩
    exact Nat.ne_of_lt hj ((List.Nodup.getElem_inj_iff f.nodup_levels).1 same)

/-- **A factor is its levels and its values.** -/
theorem ext_values {f g : Factor} (levels : f.levels = g.levels) (values : f.values = g.values)
    (ordered : f.ordered = g.ordered) (kind : f.kind = g.kind) : f = g := by
  have codes : ∀ h : Factor, h.codes = h.values.map fun v => v.bind h.levels.idxOf? := by
    intro h
    unfold Factor.values
    rw [List.map_map]
    refine (List.map_id h.codes).symm.trans (List.map_congr_left fun c hc => ?_)
    exact (code_of_levels hc).symm
  refine Factor.ext levels ?_ ordered kind
  rw [codes f, codes g, levels, values]

/-! ## Levels that are left -/

theorem some_mem_codes_iff {f : Factor} {k : Nat} (hk : k < f.levels.length) :
    some k ∈ f.codes ↔ some f.levels[k] ∈ f.values := by
  constructor
  · intro hc
    exact List.mem_map.2 ⟨some k, hc, List.getElem?_eq_getElem hk⟩
  · intro hv
    obtain ⟨c, hc, same⟩ := List.mem_map.1 hv
    have code := code_of_levels hc
    rw [same, ← List.getElem?_eq_getElem hk] at code
    obtain ⟨j, found, at_j⟩ := Option.bind_eq_some_iff.1 same
    subst found
    have := (List.getElem?_inj hk f.nodup_levels).1 ((List.getElem?_eq_getElem hk).trans at_j.symm)
    rwa [this]

/-- **The levels that are left are those that occur**, in their order. -/
theorem levels_dropUnused (f : Factor) :
    f.dropUnused.levels = f.levels.filter fun v => decide (some v ∈ f.values) := by
  have all : (List.range f.size).filterMap (fun k => f.levels[k]?) = f.levels :=
    select_range f.levels
  show ((List.range f.size).filter _).filterMap _ = _
  conv_rhs => rw [← all, List.filter_filterMap]
  rw [List.filterMap_filter]
  refine List.filterMap_congr fun k hk => ?_
  have hk : k < f.levels.length := List.mem_range.1 hk
  rw [List.getElem?_eq_getElem hk, Option.filter_some]
  simp only [List.contains_iff_mem, some_mem_codes_iff hk, decide_eq_true_eq]

/-- If all levels occur, none is dropped. -/
theorem dropUnused_eq_self {f : Factor} (h : ∀ v ∈ f.levels, some v ∈ f.values) :
    f.dropUnused = f := by
  refine ext_values ?_ f.values_dropUnused rfl rfl
  rw [levels_dropUnused]
  exact List.filter_eq_self.2 fun v hv => decide_eq_true (h v hv)

theorem mem_values_of_dropUnused {f : Factor} {v : Level} (h : v ∈ f.dropUnused.levels) :
    some v ∈ f.values := by
  rw [levels_dropUnused] at h
  exact of_decide_eq_true (List.mem_filter.1 h).2

theorem dropUnused_dropUnused (f : Factor) : f.dropUnused.dropUnused = f.dropUnused := by
  refine dropUnused_eq_self fun v hv => ?_
  rw [values_dropUnused]
  exact mem_values_of_dropUnused hv

/-! ## Rows of a factor -/

/-- Levels that no row has are in no selection of rows. -/
theorem dropUnused_select_dropUnused (positions : List Nat) (f : Factor) :
    (f.dropUnused.select positions).dropUnused = (f.select positions).dropUnused := by
  have values : (f.dropUnused.select positions).values = (f.select positions).values := by
    rw [values_select, values_select, values_dropUnused]
  refine ext_values ?_ ?_ rfl rfl
  · rw [levels_dropUnused, levels_dropUnused, values]
    show (f.dropUnused.levels).filter _ = f.levels.filter _
    rw [levels_dropUnused, List.filter_filter]
    refine List.filter_congr fun v _ => ?_
    rw [Bool.and_eq_left_iff_imp]
    intro selected
    have selected := of_decide_eq_true selected
    rw [values_select] at selected
    exact decide_eq_true (mem_of_mem_select selected)
  · rw [values_dropUnused, values_dropUnused, values]

/-- If all rows are selected, no further level is dropped. -/
theorem select_dropUnused_of_perm {f : Factor} {rows : List Nat}
    (h : rows.Perm (List.range f.codes.length)) :
    (f.select rows).dropUnused = f.dropUnused.select rows := by
  rw [← dropUnused_select_dropUnused]
  refine dropUnused_eq_self fun v hv => ?_
  have all : (ModelFormula.select rows f.values).Perm f.values :=
    select_perm (by rwa [length_values])
  rw [values_select, values_dropUnused]
  exact all.mem_iff.2 (mem_values_of_dropUnused hv)

/-! ## Factors of texts -/

/-- All values are texts. -/
def Texts (cells : List (Option Level)) : Prop := ∀ cell ∈ cells, cell.all Level.isText = true

instance (cells : List (Option Level)) : Decidable (Texts cells) :=
  inferInstanceAs (Decidable (∀ cell ∈ cells, _))

theorem Texts.select {cells : List (Option Level)} (h : Texts cells) (positions : List Nat) :
    Texts (ModelFormula.select positions cells) := fun cell hc => h cell (mem_of_mem_select hc)

/-- Texts are of one value only if they are equal. -/
theorem text_ext {v w : Level} (hv : v.isText = true) (hw : w.isText = true)
    (same : v.canon = w.canon) : v = w := by
  cases v with
  | text s =>
    cases w with
    | text t => exact same
    | _ => cases hw
  | _ => cases hv

theorem canon_of_isText {v : Level} (h : v.isText = true) : v.canon = v := by
  cases v with
  | text s => rfl
  | _ => cases h

theorem le_antisymm_of_isText {v w : Level} (hv : v.isText = true) (hw : w.isText = true)
    (vw : v.le w = true) (wv : w.le v = true) : v = w := by
  cases v with
  | text s =>
    cases w with
    | text t =>
      rw [Level.text_le_text] at vw wv
      rw [String.le_antisymm vw wv]
    | _ => cases hw
  | _ => cases hv

theorem mem_of_mem_listed {values : List Level} {v : Level} (h : v ∈ listed values) : v ∈ values :=
  (firsts_sublist _ _).subset ((List.mergeSort_perm _ _).mem_iff.1 h)

theorem pairwise_listed (values : List Level) :
    (listed values).Pairwise fun v w => v.le w = true :=
  List.pairwise_mergeSort Level.le_trans Level.le_total _

section

variable {cells : List (Option Level)}

theorem isText_of_mem (h : Texts cells) {v : Level} (hv : some v ∈ cells) : v.isText = true :=
  h _ hv

/-- The levels of a column of texts are the texts that occur. -/
theorem mem_levels_ofMixed (h : Texts cells) {v : Level} :
    v ∈ (ofMixed cells).levels ↔ some v ∈ cells := by
  have occurs : ∀ {w : Level}, w ∈ cells.filterMap id ↔ some w ∈ cells := by
    intro w
    simp [List.mem_filterMap]
  constructor
  · intro hv
    exact occurs.1 (mem_of_mem_listed hv)
  · intro hv
    obtain ⟨w, hw, same⟩ := exists_mem_listed (occurs.2 hv)
    have text := isText_of_mem h (occurs.1 (mem_of_mem_listed hw))
    rwa [← text_ext text (isText_of_mem h hv) ((Level.same_iff w v).1 same)]

/-- The values of a factor of texts are the texts themselves. -/
theorem values_ofMixed_of_texts (h : Texts cells) : (ofMixed cells).values = cells := by
  have canonical : ∀ values : List (Option Level), Texts values →
      values.map (Option.map Level.canon) = values := by
    intro values texts
    refine (List.map_congr_left fun cell hc => ?_).trans (List.map_id values)
    cases cell with
    | none => rfl
    | some v => exact congrArg some (canon_of_isText (texts _ hc))
  have texts : Texts (ofMixed cells).values := by
    intro cell hc
    cases cell with
    | none => rfl
    | some v => exact isText_of_mem h ((mem_levels_ofMixed h).1 (mem_levels_of_values hc))
  have values := values_ofMixed cells
  rwa [canonical _ texts, canonical _ h] at values

/-- **The factor of some rows of a column of texts is the factor of all rows, at these**, once the
levels that do not occur are dropped. -/
theorem dropUnused_ofMixed_select (h : Texts cells) (positions : List Nat) :
    (ofMixed (ModelFormula.select positions cells)).dropUnused =
      ((ofMixed cells).select positions).dropUnused := by
  have part := h.select positions
  have values : (ofMixed (ModelFormula.select positions cells)).values =
      ((ofMixed cells).select positions).values := by
    rw [values_select, values_ofMixed_of_texts h, values_ofMixed_of_texts part]
  refine ext_values ?_ ?_ rfl rfl
  · rw [levels_dropUnused, levels_dropUnused, values, values_select, values_ofMixed_of_texts h]
    -- Both are the texts of the selected rows, each once and sorted.
    have sorted : ∀ items : List (Option Level), ∀ p : Level → Bool,
        ((ofMixed items).levels.filter p).Pairwise fun v w => v.le w = true :=
      fun items p => (pairwise_listed _).filter p
    refine List.Perm.eq_of_pairwise (fun v w hv hw => ?_) (sorted _ _) (sorted _ _) ?_
    · have hv := isText_of_mem part ((mem_levels_ofMixed part).1 (List.mem_filter.1 hv).1)
      have hw := isText_of_mem h ((mem_levels_ofMixed h).1 (List.mem_filter.1 hw).1)
      exact le_antisymm_of_isText hv hw
    · refine (List.perm_ext_iff_of_nodup ((nodup_levels _).filter _) ((nodup_levels _).filter _)).2
        fun v => ?_
      show v ∈ List.filter _ _ ↔ v ∈ List.filter _ (ofMixed cells).levels
      rw [List.mem_filter, List.mem_filter, mem_levels_ofMixed part, mem_levels_ofMixed h]
      constructor
      · rintro ⟨hv, selected⟩
        exact ⟨mem_of_mem_select hv, selected⟩
      · rintro ⟨-, selected⟩
        exact ⟨of_decide_eq_true selected, selected⟩
  · rw [values_dropUnused, values_dropUnused, values]

end

end ModelFormula.Factor
