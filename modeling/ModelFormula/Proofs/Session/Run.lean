import ModelFormula.Session

/-!
# Runs on a session

What the steps of an operation do to a session, one after the other.

* `Session.run_bind` — a step that fails ends the operation, with the session as it stands then.
* `Session.run_get`, `Session.run_set`, … — single steps.
* `Session.run_log_of_mem`, `Session.run_log_of_not_mem` — logging an entry, by whether its logger is
  set up.
-/

set_option autoImplicit false

namespace ModelFormula.Session

variable {α β : Type} (s : Session)

theorem run_bind (x : Run α) (f : α → Run β) :
    (x >>= f).run.run s =
      match x.run.run s with
      | (.ok a, t) => (f a).run.run t
      | (.error e, t) => (.error e, t) := by
  rw [ExceptT.run_bind, StateT.run_bind]
  rcases x.run.run s with ⟨_ | _, _⟩ <;> rfl

theorem run_pure (a : α) : (pure a : Run α).run.run s = (.ok a, s) := rfl

theorem run_get : (get : Run Session).run.run s = (.ok s, s) := rfl

theorem run_set (t : Session) : (set t : Run Unit).run.run s = (.ok (), t) := rfl

theorem run_modify (f : Session → Session) :
    (modify f : Run Unit).run.run s = (.ok (), f s) := rfl

theorem run_lift (x : Except Failure α) : (liftM x : Run α).run.run s = (x, s) := by
  cases x <;> rfl

/-! ## Log entries -/

theorem run_setUp (logger : String) (settings : LoggingSettings) :
    (setUp logger settings).run.run s =
      ((Channel.configure settings s.files).2.2,
        { s.setChannel logger (Channel.configure settings s.files).1 with
          files := (Channel.configure settings s.files).2.1 }) := by
  simp only [setUp, run_bind, run_get, run_set, run_lift]

theorem run_hand (e : Entry) :
    (hand e).run.run s =
      (.ok (), { s with
        toOutput := (s.channel e.logger).emit (shownEntry e) s.surroundings s.toOutput }) := rfl

variable {s : Session} {e : Entry}

theorem run_log_of_mem (known : e.logger ∈ s.configured) :
    (log e).run.run s = (hand e).run.run s := by
  simp only [log, run_bind, run_get]
  rw [if_neg (by simpa using known)]

/-- A logger that is not set up is set up before it hands its entry on. -/
theorem run_log_of_not_mem (new : e.logger ∉ s.configured) :
    (log e).run.run s =
      match Channel.configure s.settings.logging s.files with
      | (c, files, .ok ()) =>
        (hand e).run.run
          { s.setChannel e.logger c with files, configured := e.logger :: s.configured }
      | (c, files, .error failure) =>
        (.error failure, { s.setChannel e.logger c with files }) := by
  simp only [log, run_bind, run_get]
  rw [if_pos (by simpa using new)]
  simp only [run_bind, run_setUp, run_modify]
  generalize Channel.configure s.settings.logging s.files = result
  obtain ⟨c, files, _ | _⟩ := result <;> rfl

end ModelFormula.Session
