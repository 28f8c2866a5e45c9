import ModelFormula.Proofs.Session.Configure

/-!
# Runs of calls

A program that uses a session changes its settings and logs, in any order; between its calls time
passes, and log records find other surroundings.

* `Session.Call` — one call; `Session.stepped` — the session after it, whether it returns or fails.
* `Session.after` — the session after a run of calls.
* `Session.Returns` — no call of a run that changes settings fails.
* `Session.run_reset`, `Session.run_setupLogging` — what these changes do to a session.
* `Session.configured_of_change` — after a change that returns no logger counts as set up.
* `Session.settings_log` — logging changes no settings.
-/

set_option autoImplicit false

namespace ModelFormula.Session

/-- What happens to a session, one call after the other. -/
inductive Call where
  | configure (changes : Dictionary String Plain)
  | reset (environment : Dictionary String String)
  | setupLogging (level console path form : Plain)
  | log (e : Entry)
  /-- Time passes. -/
  | meanwhile (surroundings : Surroundings)

namespace Call

def perform : Call → Run Unit
  | configure changes => do
    let _ ← Session.configure changes
  | reset environment => do
    let _ ← Session.reset environment
  | setupLogging level console path form => do
    let _ ← Session.setupLogging level console path form
  | log e => Session.log e
  | meanwhile surroundings => modify fun s => { s with surroundings }

/-- Whether a call changes settings. -/
def isChange : Call → Bool
  | configure _ => true
  | reset _ => true
  | setupLogging _ _ _ _ => true
  | log _ => false
  | meanwhile _ => false

end Call

/-- The session after a call, also after one that fails. -/
def stepped (s : Session) (c : Call) : Session := (c.perform.run.run s).2

/-- The session after a run of calls. -/
def after (s : Session) (calls : List Call) : Session := calls.foldl stepped s

/-- No call of a run that changes settings fails. -/
def Returns : Session → List Call → Prop
  | _, [] => True
  | s, c :: calls =>
    (c.isChange = true → ∃ t, c.perform.run.run s = (.ok (), t)) ∧ (s.stepped c).Returns calls

variable (s : Session)

/-! ## Changes of settings -/

theorem run_reset (environment : Dictionary String String) :
    (reset environment).run.run s =
      match Settings.ofSources (.sections [] true) environment [] with
      | .ok t => (.ok t, { s with settings := t, configured := [] })
      | .error e => (.error e, s) := by
  simp only [reset, run_bind, run_lift]
  cases Settings.ofSources (.sections [] true) environment [] <;> rfl

theorem run_setField (f : Field) (v : Plain) :
    (setField f v).run.run s =
      match f.assign v s.settings with
      | some t => (.ok (), { s with settings := t })
      | none => (.error .invalidSetting, s) := by
  simp only [setField, run_bind, run_get]
  cases f.assign v s.settings <;> rfl

/-- The fields that a call to set up logging sets, with what it sets them to. -/
def loggingFields (level console path form : Plain) : List (Field × Plain) :=
  [(.level, level), (.console, console),
    (.fileLogging, if path = .null then .null else .bool true), (.logFile, path), (.format, form)]

theorem run_setupLogging (level console path form : Plain) :
    (setupLogging level console path form).run.run s =
      match (setFields (loggingFields level console path form)).run.run s with
      | (.ok (), t) => (.ok t.settings, { t with configured := [] })
      | (.error e, t) => (.error e, t) := by
  simp only [setupLogging, run_bind, loggingFields]
  generalize (setFields _).run.run s = result
  obtain ⟨_ | _, t⟩ := result <;> rfl

/-- What setting any field keeps, setting fields one after the other keeps, also if one fails. -/
theorem setFields_keeps {P : Settings → Prop}
    (kept : ∀ {f : Field} {v : Plain} {x y : Settings}, f.assign v x = some y → P x → P y)
    (entries : List (Field × Plain)) {s : Session} (h : P s.settings) :
    P ((setFields entries).run.run s).2.settings := by
  induction entries generalizing s with
  | nil => exact h
  | cons entry entries ih =>
    obtain ⟨f, v⟩ := entry
    rw [setFields]
    by_cases null : v = .null
    · simpa only [null, ne_eq, not_true_eq_false, if_false, run_bind, run_pure] using ih h
    · simp only [ne_eq, null, not_false_eq_true, if_true, run_bind, run_setField]
      cases assigned : f.assign v s.settings with
      | none => exact h
      | some t => exact ih (kept assigned h)

/-- After a change of settings that returns no logger counts as set up. -/
theorem configured_of_change {s t : Session} {c : Call} (change : c.isChange = true)
    (returned : c.perform.run.run s = (.ok (), t)) : t.configured = [] := by
  cases c with
  | configure changes =>
    simp only [Call.perform, run_bind, run_configure] at returned
    generalize s.settings.update changes = result at returned
    obtain ⟨x, _ | _⟩ := result
    · cases returned
    · cases returned
      rfl
  | reset environment =>
    simp only [Call.perform, run_bind, run_reset] at returned
    generalize Settings.ofSources _ environment [] = result at returned
    obtain _ | x := result
    · cases returned
    · cases returned
      rfl
  | setupLogging level console path form =>
    simp only [Call.perform, run_bind, run_setupLogging] at returned
    generalize (setFields _).run.run s = result at returned
    obtain ⟨_ | _, x⟩ := result
    · cases returned
    · cases returned
      rfl
  | log e => cases change
  | meanwhile surroundings => cases change

/-! ## Log entries -/

/-- Logging changes no settings, whether the entry can be logged or not. -/
theorem settings_log (e : Entry) : ((log e).run.run s).2.settings = s.settings := by
  by_cases known : e.logger ∈ s.configured
  · rw [run_log_of_mem known]
    rfl
  · rw [run_log_of_not_mem known]
    generalize Channel.configure s.settings.logging s.files = result
    obtain ⟨c, files, _ | _⟩ := result <;> rfl

end ModelFormula.Session
