import ModelFormula.Proofs.Incidence
import ModelFormula.Proofs.Session.Run

/-!
# Results under settings of logging

What a session gives as the result of a computation whose log entries it replays, when there is no
log file.

* `LoggingSettings.usable` — whether a logger can be set up from some settings.
* `Session.run_log`, `Session.result_logAll` — one entry, and entries in their order.
* `Session.result_replay` — the outcome of the computation, unless a logger cannot be set up.
* `Session.sameResults_iff` — settings of logging change no result exactly if a logger can be set up
  from them.
-/

set_option autoImplicit false

namespace ModelFormula

/-- Whether a logger can be set up from settings without a log file: the console needs a form that
has a placeholder. -/
def LoggingSettings.usable (settings : LoggingSettings) : Prop :=
  settings.console = false ∨ Form.isValid settings.format = true

instance (settings : LoggingSettings) : Decidable settings.usable :=
  inferInstanceAs (Decidable (_ ∨ _))

theorem LoggingSettings.usable_default : ({} : LoggingSettings).usable := .inr (by decide +kernel)

/-- Setting a channel up without a log file touches no file. -/
theorem Channel.configure_of_no_file {settings : LoggingSettings}
    (off : settings.fileLogging = false) (files : Files) :
    (configure settings files).2 =
      (files, if settings.usable then .ok () else .error .badValue) := by
  unfold configure Handler.forConsole
  cases console : settings.console with
  | false =>
    have usable : settings.usable := .inl console
    simp [addFile, off, usable]
  | true =>
    cases valid : Form.isValid settings.format with
    | false =>
      have not_usable : ¬ settings.usable := by simp [LoggingSettings.usable, console, valid]
      simp [not_usable]
    | true =>
      have usable : settings.usable := .inr valid
      simp [addFile, off, usable]

namespace Session

variable {α : Type}

/-- What a session gives as the result of a computation whose entries it logs. -/
def result (s : Session) (j : Journal α) : Except Failure α := ((replay j).run.run s).1

/-- An entry can be logged if its logger is set up or can be. -/
theorem run_log {s : Session} (off : s.settings.logging.fileLogging = false) (e : Entry) :
    ∃ t, (log e).run.run s =
        (if s.settings.logging.usable ∨ e.logger ∈ s.configured then .ok () else .error .badValue,
          t) ∧
      t.settings = s.settings ∧ (s.settings.logging.usable ∨ t.configured = s.configured) := by
  by_cases known : e.logger ∈ s.configured
  · rw [run_log_of_mem known, run_hand, if_pos (.inr known)]
    exact ⟨_, rfl, rfl, .inr rfl⟩
  · rw [run_log_of_not_mem known]
    have tried := Channel.configure_of_no_file off s.files
    generalize Channel.configure s.settings.logging s.files = result at tried
    obtain ⟨c, _⟩ := result
    obtain rfl := tried
    by_cases usable : s.settings.logging.usable
    · simp only [usable, if_true, true_or, run_hand]
      exact ⟨_, rfl, rfl, trivial⟩
    · simp only [usable, known, if_false, false_or]
      exact ⟨_, rfl, rfl, rfl⟩

/-- Entries can be logged if the logger of each is set up or can be. -/
theorem result_logAll {s : Session} (off : s.settings.logging.fileLogging = false)
    (entries : List Entry) :
    ((logAll entries).run.run s).1 =
      if s.settings.logging.usable ∨ ∀ e ∈ entries, e.logger ∈ s.configured then .ok ()
      else .error .badValue := by
  induction entries generalizing s with
  | nil => exact (if_pos (.inr (List.forall_mem_nil _))).symm
  | cons e entries ih =>
    obtain ⟨t, logged, settings, configured⟩ := run_log off e
    have rest := @ih t (by rw [settings]; exact off)
    rw [settings] at rest
    simp only [logAll, run_bind, logged]
    by_cases usable : s.settings.logging.usable
    · simpa [usable] using rest
    · rw [configured.resolve_left usable] at rest
      by_cases known : e.logger ∈ s.configured
      · simpa [usable, known] using rest
      · simp [usable, known]

/-- The result of a computation is its outcome, unless it logs through a logger that is not set up
and cannot be. -/
theorem result_replay {s : Session} (off : s.settings.logging.fileLogging = false)
    (j : Journal α) :
    s.result j =
      if s.settings.logging.usable ∨ ∀ e ∈ j.entries, e.logger ∈ s.configured then j.outcome
      else .error .badValue := by
  have logged := result_logAll off j.entries
  simp only [result, replay, run_bind, run_lift]
  rcases run : (logAll j.entries).run.run s with ⟨outcome, t⟩
  rw [run] at logged
  by_cases fine : s.settings.logging.usable ∨ ∀ e ∈ j.entries, e.logger ∈ s.configured
  · obtain rfl : outcome = .ok () := logged.trans (if_pos fine)
    rw [if_pos fine]
  · obtain rfl : outcome = .error .badValue := logged.trans (if_neg fine)
    rw [if_neg fine]

/-- With the default settings of logging, all that is logged can be. -/
theorem result_of_default {s : Session} (by_default : s.settings.logging = {}) (j : Journal α) :
    s.result j = j.outcome := by
  have off : s.settings.logging.fileLogging = false := by rw [by_default]
  have usable : s.settings.logging.usable := by
    rw [by_default]
    exact LoggingSettings.usable_default
  exact (result_replay off j).trans (if_pos (.inl usable))

/-- Two sessions give the same tables of terms, frames and matrices, or the same failures. -/
structure SameResults (s t : Session) : Prop where
  terms : ∀ formula : Node,
    s.result (TermsTable.ofFormula formula) = t.result (TermsTable.ofFormula formula)
  frames : ∀ (options : ModelFrame.Options) (formula : Node) (source : Source),
    s.result (ModelFrame.build options formula source) =
      t.result (ModelFrame.build options formula source)
  matrices : ∀ (settings : Settings) (frame : ModelFrame),
    s.result (ModelMatrix.build settings frame) = t.result (ModelMatrix.build settings frame)

/-- A session with other settings of logging. -/
def withLogging (s : Session) (logging : LoggingSettings) : Session :=
  { s with settings := { s.settings with logging } }

/-- **Settings of logging** without a log file change no result exactly if a logger can be set up
from them.  Else a computation fails as soon as it logs through a logger that is not set up yet; one
that does not log so gives its outcome. -/
theorem sameResults_iff {logging : LoggingSettings} (off : logging.fileLogging = false) :
    ((∀ s : Session, SameResults (s.withLogging logging) (s.withLogging {})) ↔ logging.usable) ∧
    ∀ (s : Session) {α : Type} (j : Journal α), (s.withLogging {}).result j = j.outcome ∧
      (s.withLogging logging).result j =
        if logging.usable ∨ ∀ e ∈ j.entries, e.logger ∈ s.configured then j.outcome
        else .error .badValue := by
  have by_default : ∀ (s : Session) {α : Type} (j : Journal α),
      (s.withLogging {}).result j = j.outcome := fun s α j =>
    (result_replay rfl j).trans (if_pos (.inl LoggingSettings.usable_default))
  have given : ∀ (s : Session) {α : Type} (j : Journal α),
      (s.withLogging logging).result j =
        if logging.usable ∨ ∀ e ∈ j.entries, e.logger ∈ s.configured then j.outcome
        else .error .badValue := fun s α j => result_replay (s := s.withLogging logging) off j
  refine ⟨⟨fun same => ?_, fun usable s => ?_⟩, fun s α j => ⟨by_default s j, given s j⟩⟩
  · -- with any other form no table is made in a new session, not even that of `~ a`
    have agree := (same {}).terms (.formula none (.var "a"))
    rw [given, by_default] at agree
    split at agree
    · rename_i reason
      exact reason.resolve_right fun known =>
        List.not_mem_nil (known _ (List.mem_singleton_self _))
    · cases agree
  · have kept : ∀ {α : Type} (j : Journal α),
        (s.withLogging logging).result j = (s.withLogging {}).result j := fun {α} j => by
      rw [given, by_default, if_pos (.inl usable)]
    exact ⟨fun _ => kept _, fun _ _ _ => kept _, fun _ _ => kept _⟩

/-- Lines without their time, also about details. -/
def timeless : LoggingSettings :=
  { level := .debug, format := "%(levelname)-8s %(message)s" }

/-- With such lines the results in a new session are those of the default settings. -/
theorem sameResults_iff_timeless : timeless.fileLogging = false ∧ timeless.usable ∧
    SameResults (withLogging {} timeless) (withLogging {} {}) := by
  have valid : Form.isValid timeless.format = true := by decide +kernel
  have off : timeless.fileLogging = false := rfl
  exact ⟨off, .inr valid, (sameResults_iff off).1.2 (.inr valid) {}⟩

/-- A form without a placeholder is accepted, and then the table of `~ a` cannot be made. -/
theorem result_plainForm : ∃ s t,
    (configure [("logging.format_string", .text "plain")]).run.run {} = (.ok s.settings, s) ∧
    s.settings.logging.fileLogging = false ∧
    s.result (TermsTable.ofFormula (.formula none (.var "a"))) = .error .badValue ∧
    ({} : Session).result (TermsTable.ofFormula (.formula none (.var "a"))) = .ok t := by
  have nothing : ∀ node, (none : Option Node) = some node → node.wellFormed = true := by
    intro node same
    cases same
  have symbol : (Node.var "a").wellFormed = true := by decide
  obtain ⟨t, made⟩ : ∃ t, (TermsTable.ofFormula (.formula none (.var "a"))).outcome = .ok t := by
    obtain ⟨x, -, built⟩ := TermsTable.build_of_wellFormed nothing symbol
    exact ⟨_, (TermsTable.outcome_ofFormula none (.var "a")).trans built⟩
  refine ⟨{ settings := { logging := { format := "plain" } } }, t, rfl, rfl, ?_, ?_⟩
  · exact (result_replay rfl _).trans (if_neg (by decide +kernel))
  · rw [result_replay rfl, if_pos (.inl LoggingSettings.usable_default)]
    exact made

end Session

end ModelFormula
