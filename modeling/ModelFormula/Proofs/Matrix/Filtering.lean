import ModelFormula.Proofs.Frame.Rows
import ModelFormula.Proofs.Matrix.Transport

/-!
# Filtering first

The rows that a frame keeps make the same frame when they are all the table has: the levels of a text
column come from the kept rows alone, and nothing else looks across rows.

* `ModelFrame.onRetained` — a frame as the frame of the rows it keeps.
* `ModelMatrix.SameDesigns` — two frames give the same matrices, names and responses.
* `ModelMatrix.sameDesigns_onRetained` — designs do not depend on the rows that were left out.
* `ModelFrame.build_keep_retained` — the frame of the kept rows of a table.
-/

set_option autoImplicit false

namespace ModelFormula

namespace ModelFrame

/-- The frame as the frame of the rows it keeps, all of which are kept. -/
def onRetained (frame : ModelFrame) : ModelFrame := { frame with retained := .all frame.rows }

/-- The rows that a frame keeps are all it has. -/
theorem select_positions {frame : ModelFrame} (h : frame.Tidy) :
    frame.select frame.retained.positions = frame.onRetained := by
  have rows : List.range frame.retained.kept = List.range frame.index.length :=
    congrArg List.range h.rows.symm
  have columns : ∀ c ∈ frame.columns,
      (c.2.select (List.range frame.retained.kept)).dropUnused = c.2 := by
    intro c hc
    have all : List.range frame.retained.kept = List.range c.2.missing.length := by
      rw [h.lengths c hc, h.rows]
    rw [all, FrameColumn.select_range, h.pruned c hc]
  have mask : ModelFormula.select frame.retained.positions frame.retained = Mask.all frame.rows := by
    refine List.eq_replicate_iff.2 ⟨?_, fun kept hk => ?_⟩
    · rw [length_select frame.retained.within_positions, Mask.length_positions, h.rows]
    · obtain ⟨i, hi, found⟩ := List.mem_filterMap.1 hk
      rw [Mask.mem_positions.1 hi] at found
      exact (Option.some.inj found).symm
  unfold ModelFrame.select onRetained
  rw [mask, Mask.renumber_positions]
  congr 1
  · refine (List.map_congr_left fun c hc => ?_).trans (List.map_id _)
    rw [columns c hc]
    rfl
  · rw [rows, ModelFormula.select_range]

end ModelFrame

namespace ModelMatrix

/-- Two frames give the same matrices, names and responses, or fail for the same reasons. -/
structure SameDesigns (before after : ModelFrame) : Prop where
  matrix : ∀ settings, (build settings after).outcome = (build settings before).outcome
  names : ∀ base, after.coefficientNames base = before.coefficientNames base
  response : after.response = before.response

/-- A design depends on the terms and the data of a frame, and not on which rows of the table these
are. -/
theorem sameDesigns_onRetained (frame : ModelFrame) : SameDesigns frame frame.onRetained := by
  have same : Transports id frame frame.onRetained := by
    refine ⟨rfl, fun base node _ => ?_, fun _ _ => rfl, fun _ _ _ _ _ _ _ => rfl⟩
    exact (id_map (codedTerm frame base node)).symm
  refine ⟨fun settings => ?_, same.coefficientNames, rfl⟩
  exact (same.build (Block.movesRows_id frame.rows) settings).trans (id_map _)

end ModelMatrix

namespace ModelFrame

/-- **The frame of the rows that a frame keeps is the same frame**: the columns with their levels, the
labels and the designs are the same, and all rows are kept. -/
theorem build_keep_retained {formula : Node} {t : Table} {frame : ModelFrame} (texts : t.TextsOnly)
    (built : (build {} formula (.table t)).outcome = .ok frame) :
    (build {} formula (.table (t.keep frame.retained))).outcome = .ok frame.onRetained ∧
      ModelMatrix.SameDesigns frame frame.onRetained := by
  have tidy := tidy_of_build rfl built
  have within : Within t.rows frame.retained.positions :=
    length_retained_of_build built ▸ frame.retained.within_positions
  refine ⟨?_, ModelMatrix.sameDesigns_onRetained frame⟩
  rw [Table.keep_eq_select, build_select rowwise_default rfl texts within formula, built]
  exact congrArg Except.ok (select_positions tidy)

/-- A table with a number missing in its second row and a text in its fourth; no other row has the
level `never`. -/
def surveyTable : Table where
  columns :=
    [(.text "y", .objects [.text "yes", .text "yes", .text "yes", .null, .text "yes"]),
      (.text "x", .doubles [0.5, 0.0 / 0.0, 2.0, 3.0, 1.0]),
      (.text "g", .factor (.code [.text "never", .text "seldom", .text "often"] (by decide) true
        [some (.text "often"), some (.text "never"), some (.text "seldom"), some (.text "often"),
          some (.text "seldom")]))]
  index := [.text "i", .text "j", .text "k", .text "l", .text "m"]
  length_eq := by decide

/-- The formula `y ~ I(x)&g`. -/
def surveyFormula : Node :=
  .formula (some (.var "y")) (.app "&" [.app "I" [.var "x"], .var "g"])

theorem build_keep_retained_surveyTable : ∃ frame,
    (build {} surveyFormula (.table surveyTable)).outcome = .ok frame ∧
    frame.retained = [true, false, true, false, true] ∧
    (build {} surveyFormula (.table (surveyTable.keep frame.retained))).outcome =
      .ok frame.onRetained ∧
    ModelMatrix.SameDesigns frame frame.onRetained := by
  have kept : ModelFrame.retained <$> (build {} surveyFormula (.table surveyTable)).outcome =
      .ok [true, false, true, false, true] := by
    decide +kernel
  obtain ⟨frame, built, kept⟩ := map_eq_ok.1 kept
  exact ⟨frame, built, kept, build_keep_retained (by decide) built⟩

end ModelFrame

end ModelFormula
