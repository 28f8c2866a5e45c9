import ModelFormula.Proofs.Log.Form
import ModelFormula.Proofs.Session.Calls
import ModelFormula.Proofs.Session.Logging

/-!
# Loggers follow the settings in force

Loggers keep their channels, and which of them count as set up is kept apart.  The two stay in step:
a logger counts as set up only while its channel is the one that the settings in force stand for.
Changes of settings that return make no logger count as set up, and logging sets up what does not.

* `Channel.ofSettings` — the channel that settings without a log file stand for.
* `Session.Follows` — every logger that counts as set up has this channel.
* `Session.follows_log`, `Session.follows_stepped`, `Session.follows_after` — logging keeps this, and
  so does every run of calls whose changes return.
* `Session.Logged` — what an entry adds to the output.
* `Session.log_after_calls` — it adds this after every such run.
-/

set_option autoImplicit false

namespace ModelFormula

/-- The handler of last resort writes on the error stream only. -/
theorem Output.lastResort_keeps (o : Output) (e : Entry) :
    (o.lastResort e).console = o.console ∧ (o.lastResort e).files = o.files := by
  unfold lastResort
  split <;> exact ⟨rfl, rfl⟩

/-! ## Channels without a log file -/

namespace Channel

/-- The channel that settings without a log file stand for. -/
def ofSettings (settings : LoggingSettings) : Channel where
  level := settings.level
  handlers := if settings.console then [.console settings.format] else []

variable {settings : LoggingSettings}

theorem configure_of_usable (off : settings.fileLogging = false) (usable : settings.usable)
    (files : Files) : configure settings files = (ofSettings settings, files, .ok ()) := by
  have outcome := configure_of_no_file off files
  rw [if_pos usable] at outcome
  refine Prod.ext ?_ outcome
  unfold configure Handler.forConsole ofSettings
  rcases usable with console | valid
  · simp [console, addFile, off]
  · cases console : settings.console <;> simp [valid, addFile, off]

/-- Such a channel hands an entry that is grave enough to the console, or to the handler of last
resort. -/
theorem emit_ofSettings (e : Entry) (surroundings : Surroundings) (o : Output) :
    (ofSettings settings).emit e surroundings o =
      if settings.level.rank ≤ e.severity.rank then
        if settings.console then o.handle e surroundings (.console settings.format)
        else o.lastResort e
      else o := by
  unfold emit isEnabled ofSettings
  by_cases grave : settings.level.rank ≤ e.severity.rank
  · cases settings.console <;> simp [grave]
  · simp [grave]

end Channel

namespace Session

/-! ## Channels of loggers -/

theorem channel_setChannel (s : Session) (logger other : String) (c : Channel) :
    (s.setChannel logger c).channel other =
      if channelName other = channelName logger then c else s.channel other := by
  unfold channel setChannel
  rw [Dictionary.get?_put]
  split <;> rfl

/-- Without a log file every logger that counts as set up has the channel that the settings in force
stand for. -/
def Follows (s : Session) : Prop :=
  s.settings.logging.fileLogging = false → ∀ logger ∈ s.configured,
    s.settings.logging.usable ∧ s.channel logger = .ofSettings s.settings.logging

theorem follows_of_configured_nil {s : Session} (h : s.configured = []) : s.Follows := by
  intro _ logger mem
  rw [h] at mem
  cases mem

/-- A session in which a logger is set up from usable settings, if it was not set up before. -/
def prepared (s : Session) (logger : String) : Session :=
  if logger ∈ s.configured then s
  else
    { s.setChannel logger (.ofSettings s.settings.logging) with
      configured := logger :: s.configured }

section Prepared

variable (s : Session) (logger : String)

@[simp] theorem settings_prepared : (s.prepared logger).settings = s.settings := by
  unfold prepared
  split <;> rfl

@[simp] theorem output_prepared : (s.prepared logger).toOutput = s.toOutput := by
  unfold prepared
  split <;> rfl

@[simp] theorem surroundings_prepared : (s.prepared logger).surroundings = s.surroundings := by
  unfold prepared
  split <;> rfl

theorem mem_configured_prepared : logger ∈ (s.prepared logger).configured := by
  unfold prepared
  split
  · assumption
  · exact List.mem_cons_self

end Prepared

theorem follows_prepared {s : Session} (follows : s.Follows)
    (usable : s.settings.logging.usable) (logger : String) : (s.prepared logger).Follows := by
  intro off other mem
  rw [settings_prepared] at off ⊢
  refine ⟨usable, ?_⟩
  unfold prepared at mem ⊢
  split
  · rename_i known
    rw [if_pos known] at mem
    exact (follows off other mem).2
  · rename_i new
    rw [if_neg new] at mem
    show (s.setChannel logger _).channel other = _
    rw [channel_setChannel]
    split
    · rfl
    · rename_i differ
      rcases List.mem_cons.1 mem with rfl | known
      · exact absurd rfl differ
      · exact (follows off other known).2

/-! ## Entries -/

theorem run_log_of_usable {s : Session} (off : s.settings.logging.fileLogging = false)
    (usable : s.settings.logging.usable) (e : Entry) :
    (log e).run.run s = (hand e).run.run (s.prepared e.logger) := by
  unfold prepared
  split
  · rename_i known
    exact run_log_of_mem known
  · rename_i new
    rw [run_log_of_not_mem new, Channel.configure_of_usable off usable]
    rfl

/-- Logging keeps loggers in step with the settings in force. -/
theorem follows_log {s : Session} (follows : s.Follows) (e : Entry) :
    ((log e).run.run s).2.Follows := by
  intro off logger mem
  rw [settings_log] at off ⊢
  by_cases usable : s.settings.logging.usable
  · rw [run_log_of_usable off usable] at mem ⊢
    have kept := follows_prepared follows usable e.logger
    rw [Follows, settings_prepared] at kept
    exact kept off logger mem
  · -- then no logger was set up before, and none is now
    obtain ⟨t, logged, -, configured⟩ := run_log off e
    rw [logged, configured.resolve_left usable] at mem
    exact absurd (follows off logger mem).1 usable

/-! ## Runs -/

/-- A call keeps loggers in step with the settings in force; a change must return for that. -/
theorem follows_stepped {s : Session} (follows : s.Follows) {c : Call}
    (returns : c.isChange = true → ∃ t, c.perform.run.run s = (.ok (), t)) :
    (s.stepped c).Follows := by
  by_cases change : c.isChange = true
  · obtain ⟨t, returned⟩ := returns change
    rw [stepped, returned]
    exact follows_of_configured_nil (configured_of_change change returned)
  · cases c with
    | log e => exact follows_log follows e
    | meanwhile surroundings => exact follows
    | _ => exact absurd rfl change

theorem follows_after {s : Session} (follows : s.Follows) {calls : List Call}
    (returns : s.Returns calls) : (s.after calls).Follows := by
  induction calls generalizing s with
  | nil => exact follows
  | cons c calls ih => exact ih (follows_stepped follows returns.1) returns.2

/-! ## Output -/

/-- What a line on the console can say about an entry. -/
def recordOf (s : Session) (e : Entry) : Record :=
  (shownEntry e).record e.severity.colouredName s.surroundings

/-- The line of an entry on the console, in the form in force, if there is one. -/
def lineOf? (s : Session) (e : Entry) : Option String :=
  Form.line? s.settings.logging.format (s.recordOf e)

/-- How a session stands after an entry is logged in it. -/
structure Logged (s : Session) (e : Entry) (t : Session) : Prop where
  settings : t.settings = s.settings
  files : t.files = s.files
  /-- An entry that is not grave enough leaves no trace. -/
  below : e.severity.rank < s.settings.logging.level.rank → t.toOutput = s.toOutput
  /-- Without the console nothing is printed there. -/
  off : s.settings.logging.console = false → t.console = s.console
  /-- Else its line is one record on the console, and nothing goes anywhere else. -/
  printed : s.settings.logging.console = true →
    s.settings.logging.level.rank ≤ e.severity.rank → ∀ line, s.lineOf? e = some line →
      t.console = s.console ++ [line] ∧ t.errors = s.errors
  /-- If it has no line, that is reported. -/
  reported : s.settings.logging.console = true →
    s.settings.logging.level.rank ≤ e.severity.rank → s.lineOf? e = none →
      t.console = s.console ∧ t.errors = s.errors ++ [.noLine e.line]

/-- A logger that is in step puts an entry out as the settings in force say. -/
theorem logged_hand {s : Session} {e : Entry}
    (inStep : s.channel e.logger = .ofSettings s.settings.logging) :
    ∃ t, (hand e).run.run s = (.ok (), t) ∧ s.Logged e t := by
  have shown : s.toOutput.handle (shownEntry e) s.surroundings
      (.console s.settings.logging.format) =
      (s.lineOf? e).elim (s.toOutput.report e)
        fun line => { s.toOutput with console := s.console ++ [line] } := rfl
  rw [run_hand, inStep, Channel.emit_ofSettings, shown,
    show (shownEntry e).severity = e.severity from rfl]
  refine ⟨_, rfl, rfl, ?_, fun slight => ?_, fun off => ?_, fun on grave line made => ?_,
    fun on grave unmade => ?_⟩
  · dsimp only
    split
    · split
      · cases s.lineOf? e <;> rfl
      · exact (Output.lastResort_keeps _ _).2
    · rfl
  · exact if_neg (Nat.not_le.2 slight)
  · dsimp only
    rw [off]
    split
    · exact (Output.lastResort_keeps _ _).1
    · rfl
  · simp [on, grave, made]
  · simp [on, grave, unmade, Output.report]

/-- What a logger counts as does not show in the output. -/
theorem logged_of_prepared {s t : Session} {logger : String} {e : Entry}
    (h : (s.prepared logger).Logged e t) : s.Logged e t := by
  have line : (s.prepared logger).lineOf? e = s.lineOf? e := by simp [lineOf?, recordOf]
  obtain ⟨settings, files, below, off, printed, reported⟩ := h
  simp only [settings_prepared, output_prepared, line] at settings files below off printed reported
  exact ⟨settings, files, below, off, printed, reported⟩

/-- Entries of two loggers before, between and after changes of settings. -/
def mixedCalls : List Call :=
  [.log ⟨"alpha", .warning, "one", []⟩, .configure [("logging.level", .text "error")],
    .log ⟨"alpha", .warning, "two", []⟩,
    .setupLogging (.text "debug") .null .null (.text "%(name)s[%(process)d] %(message)s"),
    .log ⟨"beta", .info, "three", []⟩, .meanwhile { process := 42 }]

/-- An entry about details, of the logger that was set up first. -/
def detail : Entry := ⟨"alpha", .debug, "four", [("n", "1")]⟩

/-- A plain warning. -/
def plainWarning : Entry := ⟨"x", .warning, "boo", []⟩

/-- A session whose form asks for the message as a number. -/
def numberForm : Session := withLogging {} { format := "%(message)d" }

/-- A session with the console switched off. -/
def consoleOff : Session := withLogging {} { console := false }

end Session

end ModelFormula
