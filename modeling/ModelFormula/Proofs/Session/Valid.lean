import ModelFormula.Proofs.Matrix.Failures
import ModelFormula.Proofs.Session.Calls
import ModelFormula.Proofs.Settings.Valid

/-!
# The settings in force are valid

Every call that changes the settings in force assigns values one by one, and each is checked, so
that a call that fails on its way leaves valid settings, too.  A program cannot come to a base level
below the first, however it goes about it.

* `Session.isValid_stepped`, `Session.isValid_after` — calls keep the settings in force valid.
* `Session.valid_after_calls` — a base level that a factor does not have lies beyond its levels.
-/

set_option autoImplicit false

namespace ModelFormula.Session

/-- A call keeps the settings in force valid, whether it returns or fails. -/
theorem isValid_stepped {s : Session} (valid : s.settings.IsValid) (c : Call) :
    (s.stepped c).settings.IsValid := by
  cases c with
  | configure changes =>
    have changed := Settings.isValid_update valid changes
    simp only [stepped, Call.perform, run_bind, run_configure]
    generalize s.settings.update changes = result at changed
    obtain ⟨t, _ | _⟩ := result <;> exact changed
  | reset environment =>
    simp only [stepped, Call.perform, run_bind, run_reset]
    cases made : Settings.ofSources (.sections [] true) environment [] with
    | error e => exact valid
    | ok t => exact Settings.isValid_ofSources made
  | setupLogging level console path form =>
    have changed := setFields_keeps Field.isValid_assign (loggingFields level console path form) valid
    simp only [stepped, Call.perform, run_bind, run_setupLogging]
    generalize (setFields _).run.run s = result at changed
    obtain ⟨_ | _, t⟩ := result <;> exact changed
  | log e =>
    rw [stepped, Call.perform, settings_log]
    exact valid
  | meanwhile surroundings => exact valid

theorem isValid_after {s : Session} (valid : s.settings.IsValid) (calls : List Call) :
    (s.after calls).settings.IsValid := by
  induction calls generalizing s with
  | nil => exact valid
  | cons c calls ih => exact ih (isValid_stepped valid c)

/-- **The settings in force are always valid**, whatever calls a program makes and whether these
return or fail.  So when a matrix is refused for its base level, the base is that in force, and a
factor with at least two levels has fewer than that. -/
theorem valid_after_calls {s : Session} {environment : Dictionary String String}
    (made : Settings.ofSources (.sections [] true) environment [] = .ok s.settings)
    (calls : List Call) :
    (s.after calls).settings.IsValid ∧
    ∀ (frame : ModelFrame) (count base : Int) (column : Option String),
      (ModelMatrix.build (s.after calls).settings frame).outcome =
          .error (.invalidBase count base column) →
        base = (s.after calls).settings.contrasts.base ∧ 2 ≤ count ∧ count < base ∧
          ∃ node f, frame.column node = .ok (.factor f) ∧ (f.size : Int) = count ∧
            column = some node.text := by
  have valid := isValid_after (Settings.isValid_ofSources made) calls
  refine ⟨valid, fun frame count base column refused => ?_⟩
  obtain ⟨node, f, found, many, outside, same⟩ := ModelMatrix.baseOutside_of_build refused
  obtain ⟨rfl, rfl, rfl⟩ := Failure.invalidBase.inj same
  have first : 1 ≤ (s.after calls).settings.contrasts.base := Settings.isValid_iff.1 valid
  exact ⟨rfl, by omega, by omega, node, f, found, rfl, rfl⟩

/-- A frame with a factor of two levels. -/
def twoLevelFrame : ModelFrame where
  terms := { left := none, right := .var "g", terms := [.var "g"], intercept := true }
  columns := [("g", .factor (.code [.text "control", .text "treated"] (by decide) false
    [some (.text "control"), some (.text "treated")]))]
  index := [.int 0, .int 1]
  retained := [true, true]

/-- The third level as base, from the environment. -/
def thirdLevel : Dictionary String String := [("FORMULA_JAX_CONTRAST_BASE", "3")]

/-- A session with the settings of this environment. -/
def thirdLevelSession : Session where
  settings := { contrasts := { base := 3 } }

/-- Three calls that fail, the first two of them after they changed settings. -/
def failingCalls : List Call :=
  [.configure [("matrix", .dict [("dtype", .text "float32")]), ("contrasts.base", .int 0)],
    .setupLogging (.text "debug") (.text "perhaps") .null .null,
    .reset [("FORMULA_JAX_LOG_LEVEL", "loud")]]

/-- What was set before the failures stays, and the base lies beyond the levels of the factor. -/
theorem valid_after_calls_failingCalls :
    Settings.ofSources (.sections [] true) thirdLevel [] = .ok thirdLevelSession.settings ∧
    (thirdLevelSession.after failingCalls).settings =
      { contrasts := { base := 3 }, logging := { level := .debug },
        matrix := { precision := .single } } ∧
    (thirdLevelSession.after failingCalls).settings.IsValid ∧
    (ModelMatrix.build (thirdLevelSession.after failingCalls).settings twoLevelFrame).outcome =
      .error (.invalidBase 2 3 (some "g")) ∧
    (3 : Int) = (thirdLevelSession.after failingCalls).settings.contrasts.base := by
  have made : Settings.ofSources (.sections [] true) thirdLevel [] =
      .ok thirdLevelSession.settings := rfl
  obtain ⟨valid, refusal⟩ := valid_after_calls made failingCalls
  have refused : (ModelMatrix.build (thirdLevelSession.after failingCalls).settings
      twoLevelFrame).outcome = .error (.invalidBase 2 3 (some "g")) := rfl
  exact ⟨made, rfl, valid, refused, (refusal _ _ _ _ refused).1⟩

end ModelFormula.Session
