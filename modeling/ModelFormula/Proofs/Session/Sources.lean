import Mathlib.Control.Monad.Basic
import ModelFormula.Proofs.Session.Run
import ModelFormula.Proofs.Settings.Layers

/-!
# Settings from files

* `Session.state_loadDocument` — reading a document changes nothing.
* `Session.loadSettings_isChosen` — settings from a document, the environment and given values take
  every field from the first of these that speaks about it, the given values first.
-/

set_option autoImplicit false

namespace ModelFormula

namespace Session

/-- Reading a document changes nothing. -/
theorem state_loadDocument (path : String) (s : Session) :
    ((loadDocument path).run.run s).2 = s := by
  rw [loadDocument]
  by_cases unnamed : path = ""
  · rw [if_pos unnamed, run_pure]
  · rw [if_neg unnamed, run_bind, run_get]
    by_cases missing : (!s.files.has (.ofText path)) = true
    · simp only [missing, if_true]
      rfl
    · simp only [missing, Bool.false_eq_true, if_false, run_bind, run_lift]
      cases s.files.read (.ofText path) with
      | error e => rfl
      | ok text =>
        dsimp only
        cases Document.ofText text with
        | error e => rfl
        | ok document => cases document <;> rfl

/-- **Settings from several sources take every field for itself**: the given value, or else that of
the environment, or else that of the document, or else the default.  They fail exactly if some field
is given a value in this way that it does not take, and the failure names all such fields; what stands
in an earlier source but is not taken from there does not matter. -/
theorem loadSettings_isChosen {s : Session} {path : String} {document given : Layer}
    {environment : Dictionary String String}
    (loaded : ((loadDocument path).run.run s).1 = .ok (.sections document.toPlain true))
    (simple : given.IsSimple)
    (whole : ∀ s, environment.get? "FORMULA_JAX_CONTRAST_BASE" = some s →
      (Text.wholeNumber? s).isSome = true) :
    Settings.IsChosen (Settings.chosen document environment given)
        ((loadSettings path environment given.toPlain).run.run s).1 ∧
      ((loadSettings path environment given.toPlain).run.run s).2 = s := by
  have read : (loadDocument path).run.run s = (.ok (.sections document.toPlain true), s) :=
    Prod.ext loaded (state_loadDocument path s)
  rw [loadSettings, run_bind, read]
  dsimp only
  rw [run_lift]
  exact ⟨Settings.isChosen_ofSources simple whole, rfl⟩

/-- A file that sets four fields in three sections, the first two to values that they do not take. -/
def lowerLayer : Layer :=
  [("contrasts", [("base", .int 0)]),
    ("logging", [("level", .text "loud"), ("console_logging", .bool false)]),
    ("matrix", [("jax_dtype", .text "float16")])]

def lowerLayerSession : Session where
  files := { texts := [(["tmp", "work", "settings.yaml"], "contrasts:\n  base: 0\n" ++
    "logging:\n  level: loud\n  console_logging: off\nmatrix:\n  jax_dtype: float16\n")] }

/-- The second level as base. -/
def secondLevel : Dictionary String String := [("FORMULA_JAX_CONTRAST_BASE", " 2 ")]

/-- Values that overrule the level of the file, with a fault of their own. -/
def newFault : Layer :=
  [("logging", [("level", .text "debug"), ("colour", .null)]),
    ("frame", [("drop_unused_levels", .text "perhaps")])]

/-- Values that overrule all faults which the environment leaves. -/
def noFault : Layer :=
  [("logging", [("level", .text "debug")]), ("matrix", [("jax_dtype", .text "float64")])]

/-- A fault of the file does no harm where it is overruled, and the rest of its section stays. -/
theorem loadSettings_isChosen_lowerLayer :
    ((loadDocument "settings.yaml").run.run lowerLayerSession).1 =
      .ok (.sections lowerLayer.toPlain true) ∧
    newFault.IsSimple ∧ noFault.IsSimple ∧
    (∀ s, secondLevel.get? "FORMULA_JAX_CONTRAST_BASE" = some s →
      (Text.wholeNumber? s).isSome = true) ∧
    ((loadSettings "settings.yaml" secondLevel newFault.toPlain).run.run lowerLayerSession).1 =
      .error (.configuration "frame.drop_unused_levels, matrix.jax_dtype") ∧
    ((loadSettings "settings.yaml" secondLevel noFault.toPlain).run.run lowerLayerSession).1 =
      .ok {
        logging := { level := .debug, console := false }, contrasts := { base := 2 },
        matrix := { exported := .double } } := by
  have loaded : ((loadDocument "settings.yaml").run.run lowerLayerSession).1 =
      .ok (.sections lowerLayer.toPlain true) := by decide +kernel
  have faulty : newFault.IsSimple := ⟨by decide, by decide⟩
  have faultless : noFault.IsSimple := ⟨by decide, by decide⟩
  have whole : ∀ s, secondLevel.get? "FORMULA_JAX_CONTRAST_BASE" = some s →
      (Text.wholeNumber? s).isSome = true := by
    rintro s ⟨⟩
    rfl
  have fails := (loadSettings_isChosen loaded faulty whole).1.error_iff
  have returns := (loadSettings_isChosen loaded faultless whole).1.ok_iff
  refine ⟨loaded, faulty, faultless, whole, (fails _).2 ⟨by decide, rfl⟩,
    (returns _).2 ⟨rfl, fun f => ?_⟩⟩
  cases f <;> rfl

end Session

end ModelFormula
