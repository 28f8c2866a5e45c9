import ModelFormula.Proofs.Frame.Rows

/-!
# Frames of the complete rows

The default policy for missing values keeps the rows in which no column is missing, so in its frames
nothing is.

* `Mask.keep_complete` — in the complete rows no list has a mark.
* `ModelFrame.Complete`, `ModelFrame.complete_of_build` — a frame of the complete rows has no
  missing cell.
* `ModelFrame.exists_column_of_build` — every evaluation term of a frame has its column.
-/

set_option autoImplicit false

namespace ModelFormula

theorem FrameColumn.missing_keep (mask : Mask) (c : FrameColumn) :
    (c.keep mask).missing = mask.keep c.missing := by
  cases c with
  | numeric values => exact (Mask.keep_map _ mask values).symm
  | factor f => exact (Mask.keep_map _ mask f.codes).symm

/-- In the complete rows no list has a mark. -/
theorem Mask.keep_complete {n : Nat} {missing : List (List Bool)}
    (sizes : ∀ marks ∈ missing, marks.length = n) {marks : List Bool} (mem : marks ∈ missing) :
    true ∉ (Mask.complete n missing).keep marks := by
  have size : (Mask.complete n missing).length ≤ marks.length := by
    rw [Mask.length_complete sizes, sizes marks mem]
  intro marked
  obtain ⟨r, at_r⟩ := List.mem_iff_getElem?.1 marked
  rw [Mask.getElem?_keep _ _ size] at at_r
  obtain ⟨i, position, at_i⟩ := Option.bind_eq_some_iff.1 at_r
  have kept := Mask.mem_positions.1 (List.mem_of_getElem? position)
  have hi : i < n := by
    rw [← Mask.length_complete sizes]
    exact (List.getElem?_eq_some_iff.1 kept).1
  have unmarked := (Mask.getElem?_complete sizes hi).1 kept marks mem
  rw [unmarked] at at_i
  cases at_i

namespace ModelFrame

variable {options : Options} {formula : Node} {source : Source} {frame : ModelFrame}

/-- No cell of any column is missing. -/
def Complete (frame : ModelFrame) : Prop :=
  ∀ node column, frame.column node = .ok column → true ∉ column.missing

theorem missing_finished (mask : Mask) (c : FrameColumn) :
    (finished options mask c).missing = mask.keep c.missing := by
  unfold finished
  split
  · rw [FrameColumn.missing_dropUnused, FrameColumn.missing_keep]
  · rw [FrameColumn.missing_keep]

/-- **A frame of the complete rows has no missing cell.** -/
theorem complete_of_build (omits : options.missing = .omitIncomplete)
    (h : (build options formula source).outcome = .ok frame) : frame.Complete := by
  obtain ⟨left, right, terms, -, -, built⟩ := build_eq_ok h
  obtain ⟨table, columns, -, resolved, rfl⟩ := ofTerms_eq_ok built
  intro node column found
  have entry := Dictionary.mem_of_get? (column_eq_ok found)
  rw [columns_assemble] at entry
  obtain ⟨c, hc, same⟩ := List.mem_map.1 entry
  obtain ⟨-, rfl⟩ := Prod.mk.inj same
  -- The mask was made of the marks of all stored columns, and this one was stored.
  rw [missing_finished]
  show true ∉ (options.missing.mask table.index.length _).keep c.2.missing
  rw [omits]
  refine Mask.keep_complete (fun marks hm => ?_) (List.mem_map_of_mem hc)
  obtain ⟨d, hd, rfl⟩ := List.mem_map.1 hm
  obtain ⟨other, -, -, origin, held⟩ := mem_keyed resolved hd
  exact held.length_missing

/-- **Every evaluation term has its column.** -/
theorem exists_column_of_build (h : (build options formula source).outcome = .ok frame)
    {node : Node} (hn : node ∈ frame.terms.vocabulary) :
    ∃ column, frame.column node = .ok column := by
  obtain ⟨left, right, terms, -, sides, built⟩ := build_eq_ok h
  obtain ⟨table, columns, rfl, resolved, frame_eq⟩ := ofTerms_eq_ok built
  have same : frame.terms = terms := by rw [frame_eq]; rfl
  rw [same] at hn
  obtain ⟨_, _, _, column, _, -, -, -, -, found⟩ :=
    column_last built (TermsTable.wellFormed_of_build sides) hn
  exact ⟨_, found⟩

end ModelFrame

end ModelFormula
