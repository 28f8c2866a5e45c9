import ModelFormula.Matrix
import ModelFormula.Proofs.Matrix.Coding
import ModelFormula.Proofs.Outcome

/-!
# Base levels that a factor does not have

A model matrix is refused for its base level only where a factor with at least two levels is coded,
and only if the base is not the position of one of them.

* `ModelFrame.BaseOutside` — a failure that says so of a factor, and rightly.
* `FrameColumn.coded_eq_invalidBase` — why a column is refused for the base.
* `ModelMatrix.baseOutside_of_build` — why a matrix is refused for its base level.
-/

set_option autoImplicit false

namespace ModelFormula

variable {frame : ModelFrame} {base : Int}

/-- A failure says of an expression that its column is a factor with at least two levels, but none at
the position of the base, and this is so. -/
def ModelFrame.BaseOutside (frame : ModelFrame) (base : Int) (e : Failure) : Prop :=
  ∃ node f, frame.column node = .ok (.factor f) ∧ 2 ≤ f.size ∧ ¬ (1 ≤ base ∧ base ≤ f.size) ∧
    e = .invalidBase f.size base (some node.text)

namespace ModelFrame

theorem column_ne_invalidBase {node : Node} {count base' : Int} {column : Option String} :
    frame.column node ≠ .error (.invalidBase count base' column) := by
  unfold ModelFrame.column Node.render
  intro h
  obtain h | ⟨text, -, h⟩ := bind_eq_error.1 h
  · split at h <;> cases h
  · split at h <;> cases h

/-- Names do not depend on whether a base is the position of a level. -/
theorem termsNames_ne_invalidBase {count base' : Int} {column : Option String}
    (terms : List (Nat × Node)) :
    frame.termsNames base terms ≠ .error (.invalidBase count base' column) := by
  induction terms with
  | nil => exact nofun
  | cons p terms ih =>
    intro h
    obtain h | ⟨names, -, h⟩ := bind_eq_error.1 h
    · unfold termNames at h
      split at h
      · obtain h | ⟨c, -, h⟩ := bind_eq_error.1 h
        · exact column_ne_invalidBase h
        · cases c <;> cases h
      · cases h
    · obtain h | ⟨others, -, h⟩ := bind_eq_error.1 h
      · exact ih h
      · cases h

theorem coefficientNames_ne_invalidBase {count base' : Int} {column : Option String} :
    frame.coefficientNames base ≠ .error (.invalidBase count base' column) := by
  intro h
  obtain h | ⟨names, -, h⟩ := bind_eq_error.1 h
  · exact termsNames_ne_invalidBase _ h
  · cases h

end ModelFrame

namespace FrameColumn

theorem coded_eq_invalidBase {c : FrameColumn} {name : String} {count base' : Int}
    {column : Option String} (h : c.coded base name = .error (.invalidBase count base' column)) :
    ∃ f, c = .factor f ∧ 2 ≤ f.size ∧ ¬ (1 ≤ base ∧ base ≤ f.size) ∧
      (.invalidBase count base' column : Failure) = .invalidBase f.size base (some name) := by
  cases c with
  | numeric values => cases h
  | factor f =>
    have refused : failure? (f.coded base name) = some (.invalidBase count base' column) :=
      failure?_eq_some_iff.2 h
    rw [Factor.failure?_coded] at refused
    split at refused
    · cases refused
    split at refused
    · cases refused
    split at refused
    · rename_i many outside
      exact ⟨f, rfl, Nat.not_lt.1 many, by omega, (Option.some_inj.1 refused).symm⟩
    · cases refused

end FrameColumn

namespace ModelMatrix

variable {count base' : Int} {column : Option String}

theorem baseOutside_of_codedTerm {node : Node}
    (h : codedTerm frame base node = .error (.invalidBase count base' column)) :
    frame.BaseOutside base (.invalidBase count base' column) := by
  obtain h | ⟨c, found, h⟩ := bind_eq_error.1 h
  · exact absurd h ModelFrame.column_ne_invalidBase
  · obtain ⟨f, rfl, many, outside, same⟩ := FrameColumn.coded_eq_invalidBase h
    exact ⟨node, f, found, many, outside, same⟩

theorem baseOutside_of_codeAll {nodes : List Node}
    (h : codeAll (codedTerm frame base) nodes = .error (.invalidBase count base' column)) :
    frame.BaseOutside base (.invalidBase count base' column) := by
  induction nodes with
  | nil => cases h
  | cons node nodes ih =>
    obtain h | ⟨block, -, h⟩ := bind_eq_error.1 h
    · exact baseOutside_of_codedTerm h
    · obtain h | ⟨blocks, -, h⟩ := bind_eq_error.1 h
      · exact ih h
      · cases h

theorem baseOutside_of_termBlock {place : Nat} {term : Node}
    (h : termBlock frame base place term = .error (.invalidBase count base' column)) :
    frame.BaseOutside base (.invalidBase count base' column) := by
  unfold termBlock at h
  split at h
  · cases h
  · exact baseOutside_of_codedTerm h
  · obtain h | ⟨first, -, h⟩ := bind_eq_error.1 h
    · exact baseOutside_of_codedTerm h
    · obtain h | ⟨second, -, h⟩ := bind_eq_error.1 h
      · exact baseOutside_of_codedTerm h
      · cases h
  · cases h

theorem baseOutside_of_termBlocks {terms : List (Nat × Node)}
    (h : termBlocks frame base terms = .error (.invalidBase count base' column)) :
    frame.BaseOutside base (.invalidBase count base' column) := by
  induction terms with
  | nil => cases h
  | cons p terms ih =>
    obtain h | ⟨block, -, h⟩ := bind_eq_error.1 h
    · exact baseOutside_of_termBlock h
    · obtain h | ⟨blocks, -, h⟩ := bind_eq_error.1 h
      · exact ih h
      · cases h

theorem baseOutside_of_fixedBlocks
    (h : fixedBlocks frame base = .error (.invalidBase count base' column)) :
    frame.BaseOutside base (.invalidBase count base' column) := by
  obtain h | ⟨blocks, -, h⟩ := bind_eq_error.1 h
  · exact baseOutside_of_codeAll h
  · exact baseOutside_of_termBlocks h

theorem columnNames_ne_invalidBase :
    (columnNames frame base).outcome ≠ .error (.invalidBase count base' column) := by
  unfold columnNames
  intro h
  split at h
  · cases h
  · cases h
  · rename_i refused
    cases h
    exact ModelFrame.coefficientNames_ne_invalidBase refused

/-- **A matrix is refused for its base level** only where a factor is coded that has at least two
levels, but none at the position of the base. -/
theorem baseOutside_of_build {settings : Settings}
    (h : (build settings frame).outcome = .error (.invalidBase count base' column)) :
    frame.BaseOutside settings.contrasts.base (.invalidBase count base' column) := by
  obtain h | ⟨blocks, -, h⟩ := Journal.outcome_bind_eq_error.1 h
  · exact baseOutside_of_fixedBlocks h
  · obtain h | ⟨names, -, h⟩ := Journal.outcome_bind_eq_error.1 h
    · exact absurd h columnNames_ne_invalidBase
    · cases h

end ModelMatrix

end ModelFormula
