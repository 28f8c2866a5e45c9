import ModelFormula.Proofs.Session.Run
import ModelFormula.Proofs.Settings.Update

/-!
# Changes of the settings in force that fail

* `Session.run_configure` — what a change of the settings in force does to a session.
* `Session.eq_of_update_iff` — when changes leave a session as it was.
* `Session.configure_eq_error` — when a change fails; it keeps what was changed before the key it
  fails at.
-/

set_option autoImplicit false

namespace ModelFormula.Session

theorem run_configure (changes : Dictionary String Plain) (s : Session) :
    (configure changes).run.run s =
      match s.settings.update changes with
      | (t, .ok ()) => (.ok t, { s with settings := t, configured := [] })
      | (t, .error e) => (.error e, { s with settings := t }) := by
  simp only [configure, run_bind, run_get, run_set, run_lift]
  obtain ⟨t, _ | _⟩ := s.settings.update changes <;> rfl

/-- Changes leave a session as it was exactly if they gave every field the value that it had. -/
theorem eq_of_update_iff {s : Session} {t : Settings} {changes : List (String × Plain)}
    (done : s.settings.update changes = (t, .ok ())) :
    { s with settings := t } = s ↔ ∀ (f : Field) (w : Plain),
      Settings.lastGiven f changes = some w → w = f.get s.settings := by
  have read : ∀ f : Field, f.get t = (Settings.lastGiven f changes).getD (f.get s.settings) :=
    fun f => Settings.get_update done
  constructor
  · intro kept f w given
    have same : t = s.settings := congrArg settings kept
    have now := read f
    rw [given, same] at now
    exact now.symm
  · intro kept
    have same : t = s.settings := Settings.ext_get fun f => by
      rw [read f]
      cases given : Settings.lastGiven f changes with
      | none => rfl
      | some w => exact kept f w given
    rw [same]

/-- **A change of the settings in force fails** exactly if some key is not accepted, and names the
first such key.  Changes for the keys before it stay, without the loggers taking them up: every field
reads what these gave to it last, and nothing else of the session is touched.  So the session is as it
was exactly if they gave every field the value that it had. -/
theorem configure_eq_error (changes : Dictionary String Plain) (s : Session) :
    ((∃ e s', (configure changes).run.run s = (.error e, s')) ↔
      Settings.accepted changes ≠ changes) ∧
    ∀ e s', (configure changes).run.run s = (.error e, s') →
      (∃ key v after, changes = Settings.accepted changes ++ (key, v) :: after ∧
        Settings.accepts key v = false ∧ e = .configuration key) ∧
      s' = { s with settings := s'.settings } ∧
      (∀ f : Field, f.get s'.settings =
        (Settings.lastGiven f (Settings.accepted changes)).getD (f.get s.settings)) ∧
      (s' = s ↔ ∀ (f : Field) (w : Plain),
        Settings.lastGiven f (Settings.accepted changes) = some w → w = f.get s.settings) := by
  rw [run_configure]
  obtain ⟨t, done, all | ⟨key, v, after, split, refused, stopped⟩⟩ :=
    s.settings.update_cases changes
  · -- all keys are accepted, and nothing fails
    rw [all] at done
    rw [done]
    refine ⟨⟨fun ⟨_, _, failed⟩ => ?_, fun some_key => absurd all some_key⟩, fun _ _ failed => ?_⟩
    · cases failed
    · cases failed
  · rw [stopped]
    constructor
    · refine ⟨fun _ all => ?_, fun _ => ⟨_, _, rfl⟩⟩
      have length := congrArg List.length split
      rw [all, List.length_append, List.length_cons] at length
      omega
    · rintro e s' failed
      obtain ⟨rfl, rfl⟩ : Failure.configuration key = e ∧ { s with settings := t } = s' :=
        (Prod.mk.inj failed).imp_left Except.error.inj
      exact ⟨⟨key, v, after, split, refused, rfl⟩, rfl, fun f => Settings.get_update done,
        eq_of_update_iff done⟩

/-- Changes of whole sections and of fields, with an unknown field after them. -/
def mixedChanges : Dictionary String Plain :=
  [("contrasts", .dict [("base", .text "3")]), ("logging.level", .text "debug"),
    ("contrasts.base", .int 2), ("logging", .dict []), ("frame.nothing", .bool true),
    ("matrix.dtype", .text "float32")]

/-- Of these changes in a new session the last one of the base level stays. -/
theorem configure_eq_error_mixedChanges : ∃ s',
    (configure mixedChanges).run.run {} = (.error (.configuration "frame.nothing"), s') ∧
    s' = { settings := s'.settings } ∧
    (∀ f : Field, f.get s'.settings = if f = .base then .int 2 else f.get {}) ∧ s' ≠ {} := by
  obtain ⟨s', failed⟩ : ∃ s', (configure mixedChanges).run.run {} =
      (.error (.configuration "frame.nothing"), s') := ⟨_, rfl⟩
  obtain ⟨-, kept, read, untouched⟩ := (configure_eq_error mixedChanges {}).2 _ s' failed
  have last : ∀ f : Field,
      (Settings.lastGiven f (Settings.accepted mixedChanges)).getD (f.get {}) =
        if f = .base then .int 2 else f.get {} := by
    intro f
    cases f <;> rfl
  refine ⟨s', failed, kept, fun f => (read f).trans (last f), fun same => ?_⟩
  have base : Plain.int 2 = .int 1 := untouched.1 same .base (.int 2) rfl
  cases base

/-- Of two changes in a new session the first stays when the second has an unknown key. -/
theorem configure_keptBase : ∃ s',
    (configure [("contrasts.base", .int 2), ("nothing", .int 1)]).run.run {} =
      (.error (.configuration "nothing"), s') ∧
    s'.settings ≠ ({} : Session).settings :=
  ⟨{ settings := { contrasts := { base := 2 } } }, rfl, by decide⟩

end ModelFormula.Session
