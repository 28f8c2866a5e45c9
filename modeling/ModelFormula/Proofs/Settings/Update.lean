import ModelFormula.Settings.Update

/-!
# Fields after changes

What a field of some settings reads after changes to them, key by key.

* `Settings.ext_get` — settings with the same fields are the same.
* `Field.get_of_assign_ne`, `Section.get_replace` — a change leaves the other fields alone.
* `Settings.addressed`, `Settings.accepts`, `Settings.valueGiven` — the fields that a key stands for,
  whether it takes a value, and what the fields read then; none of this depends on the settings that
  are changed.
* `Settings.get_set?`, `Settings.get_update` — a field reads what the last change for it gave.
* `Settings.update_cases` — changes fail at the first that is not accepted.
-/

set_option autoImplicit false

namespace ModelFormula

variable {s t : Settings} {v : Plain}

/-! ## Settings and their fields -/

theorem Severity.name_injective {a b : Severity} (h : a.name = b.name) : a = b := by
  cases a <;> cases b <;> first | rfl | exact absurd h (by decide)

theorem Precision.name_injective {a b : Precision} (h : a.name = b.name) : a = b := by
  cases a <;> cases b <;> first | rfl | exact absurd h (by decide)

/-- Paths that read the same as untyped values are the same; no path reads null. -/
theorem Field.logFile_of_get (h : Field.logFile.get s = Field.logFile.get t) :
    s.logging.logFile = t.logging.logFile := by
  simp only [Field.get] at h
  cases hs : s.logging.logFile <;> cases ht : t.logging.logFile <;> rw [hs, ht] at h
  · cases h
  · cases h
  · rw [FilePath.text_injective (Plain.text.inj h)]

/-- Settings with the same fields are the same. -/
theorem Settings.ext_get (h : ∀ f : Field, f.get s = f.get t) : s = t := by
  have level := Severity.name_injective (Plain.text.inj (h .level))
  have fileLogging := Plain.bool.inj (h .fileLogging)
  have logFile := Field.logFile_of_get (h .logFile)
  have console := Plain.bool.inj (h .console)
  have format := Plain.text.inj (h .format)
  have base := Plain.int.inj (h .base)
  have dropUnused := Plain.bool.inj (h .dropUnusedLevels)
  have texts := Plain.bool.inj (h .textsAsFactors)
  have precision := Precision.name_injective (Plain.text.inj (h .precision))
  have exported := Precision.name_injective (Plain.text.inj (h .exported))
  obtain ⟨⟨_, _, _, _, _⟩, ⟨_⟩, ⟨_, _⟩, ⟨_, _⟩⟩ := s
  obtain ⟨⟨_, _, _, _, _⟩, ⟨_⟩, ⟨_, _⟩, ⟨_, _⟩⟩ := t
  simp_all

/-! ## One change -/

/-- A change of a field leaves the others alone. -/
theorem Field.get_of_assign_ne {f f' : Field} (h : f.assign v s = some t) (ne : f' ≠ f) :
    f'.get t = f'.get s := by
  cases f <;> simp only [Field.assign, Option.map_eq_some_iff] at h <;> obtain ⟨x, -, rfl⟩ := h <;>
    cases f' <;> first | rfl | exact absurd rfl ne

/-- What a field takes, and what it reads then, does not depend on the settings before. -/
theorem Field.assign_anywhere {f : Field} (h : f.assign v s = some t) (u : Settings) :
    ∃ w, f.assign v u = some w ∧ f.get w = f.get t := by
  cases f <;> simp only [Field.assign, Option.map_eq_some_iff] at h ⊢ <;>
    obtain ⟨x, given, rfl⟩ := h <;> exact ⟨_, ⟨x, given, rfl⟩, rfl⟩

/-- A section put in the place of another is read there; the other sections stay. -/
theorem Section.get_replace (g : Section) (f : Field) (source target : Settings) :
    f.get (g.replace source target) = if f.group = g then f.get source else f.get target := by
  cases g <;> cases f <;> rfl

theorem Section.assign_eq_some {g : Section} (h : g.assign v s = some t) :
    ∃ source, t = g.replace source s ∧ ∀ u, g.assign v u = some (g.replace source u) := by
  unfold Section.assign at h
  split at h
  · rename_i entries
    split at h
    · rename_i source made
      refine ⟨source, (Option.some.inj h).symm, fun u => ?_⟩
      simp only [Section.assign, made]
    · cases h
  · cases h

theorem Field.mem_inGroup {f : Field} {g : Section} : f ∈ Field.inGroup g ↔ f.group = g := by
  have every : f ∈ Field.all := by cases f <;> decide
  simp [Field.inGroup, every]

namespace Settings

/-- The fields that a key stands for: all of its section, or the one it names. -/
def addressed (key : String) : List Field :=
  let (sectionName, fieldName) := splitKey key
  match Section.ofName? sectionName with
  | none => []
  | some g => if fieldName = "" then Field.inGroup g else (Field.ofName? g fieldName).toList

/-- Whether there is a setting of a key and it takes a value. -/
def accepts (key : String) (v : Plain) : Bool := (set? {} key v).isSome

/-- The changes before the first that is not accepted. -/
def accepted (changes : List (String × Plain)) : List (String × Plain) :=
  changes.takeWhile fun change => accepts change.1 change.2

/-- The value that a change gives to a field, if its key stands for the field. -/
def valueGiven (f : Field) (change : String × Plain) : Option Plain :=
  if f ∈ addressed change.1 then (set? {} change.1 change.2).map f.get else none

/-- The value that changes give to a field: that of the last which gives one. -/
def lastGiven (f : Field) : List (String × Plain) → Option Plain
  | [] => none
  | change :: changes => (lastGiven f changes).or (valueGiven f change)

variable {key : String} {f : Field}

/-- A key that is accepted stands for a section or for one field. -/
theorem set?_cases (h : s.set? key v = some t) :
    (∃ g, addressed key = Field.inGroup g ∧ g.assign v s = some t ∧
      ∀ u : Settings, u.set? key v = g.assign v u) ∨
    ∃ f, addressed key = [f] ∧ f.assign v s = some t ∧
      ∀ u : Settings, u.set? key v = f.assign v u := by
  unfold set? at h
  generalize split : splitKey key = names at h
  obtain ⟨sectionName, fieldName⟩ := names
  cases hg : Section.ofName? sectionName with
  | none =>
    simp only [hg] at h
    cases h
  | some g =>
    by_cases whole : fieldName = ""
    · simp only [hg, whole, if_true] at h
      exact .inl ⟨g, by simp [addressed, split, hg, whole], h,
        fun u => by simp [set?, split, hg, whole]⟩
    · cases hf : Field.ofName? g fieldName with
      | none =>
        simp only [hg, whole, if_false, hf] at h
        cases h
      | some f =>
        simp only [hg, whole, if_false, hf] at h
        exact .inr ⟨f, by simp [addressed, split, hg, whole, hf], h,
          fun u => by simp [set?, split, hg, whole, hf]⟩

/-- Whether a change is accepted, and what the fields it stands for read then, does not depend on
the settings before; other fields stay. -/
theorem set?_anywhere (h : s.set? key v = some t) (u : Settings) :
    ∃ w, u.set? key v = some w ∧
      ∀ f : Field, f.get w = if f ∈ addressed key then f.get t else f.get u := by
  obtain ⟨g, fields, given, same⟩ | ⟨f, fields, given, same⟩ := set?_cases h
  · obtain ⟨source, rfl, made⟩ := Section.assign_eq_some given
    refine ⟨g.replace source u, (same u).trans (made u), fun f => ?_⟩
    rw [fields, Section.get_replace, Section.get_replace]
    by_cases inside : f.group = g <;> simp [Field.mem_inGroup, inside]
  · obtain ⟨w, made, read⟩ := Field.assign_anywhere given u
    refine ⟨w, (same u).trans made, fun f' => ?_⟩
    rw [fields]
    by_cases is : f' = f
    · simp [is, read]
    · simp [is, Field.get_of_assign_ne made is]

theorem accepts_of_set? (h : s.set? key v = some t) : accepts key v = true := by
  obtain ⟨w, made, -⟩ := set?_anywhere h {}
  rw [accepts, made]
  rfl

theorem set?_of_accepts (h : accepts key v = true) (s : Settings) : ∃ t, s.set? key v = some t := by
  obtain ⟨w, made⟩ := Option.isSome_iff_exists.1 h
  obtain ⟨t, made, -⟩ := set?_anywhere made s
  exact ⟨t, made⟩

/-- After a change a field reads what the change gave to it, or else what it read before. -/
theorem get_set? (h : s.set? key v = some t) :
    f.get t = (valueGiven f (key, v)).getD (f.get s) := by
  obtain ⟨w, made, read⟩ := set?_anywhere h {}
  obtain ⟨t', made', read'⟩ := set?_anywhere h s
  obtain rfl : t = t' := Option.some.inj (h.symm.trans made')
  by_cases inside : f ∈ addressed key
  · have given : f.get w = f.get t := by simpa [inside] using read f
    simp [valueGiven, inside, made, given]
  · simpa [valueGiven, inside] using read' f

/-! ## Several changes -/

theorem set_eq (s : Settings) (key : String) (v : Plain) :
    s.set key v =
      match s.set? key v with
      | some t => .ok t
      | none => .error (.configuration key) := rfl

/-- After changes that were all made a field reads what they gave to it last, or else what it read
before. -/
theorem get_update {changes : List (String × Plain)} (h : s.update changes = (t, .ok ())) :
    f.get t = (lastGiven f changes).getD (f.get s) := by
  induction changes generalizing s with
  | nil =>
    obtain rfl : s = t := congrArg Prod.fst h
    rfl
  | cons change changes ih =>
    obtain ⟨key, v⟩ := change
    rw [update, set_eq] at h
    cases made : s.set? key v with
    | none => simp [made] at h
    | some u =>
      simp only [made] at h
      rw [ih h, get_set? made, lastGiven]
      cases lastGiven f changes <;> rfl

/-- Changes are made up to the first that is not accepted, whose key the failure names. -/
theorem update_cases (s : Settings) (changes : List (String × Plain)) :
    ∃ t, s.update (accepted changes) = (t, .ok ()) ∧
      (accepted changes = changes ∨
        ∃ key v after, changes = accepted changes ++ (key, v) :: after ∧
          accepts key v = false ∧ s.update changes = (t, .error (.configuration key))) := by
  induction changes generalizing s with
  | nil => exact ⟨s, rfl, .inl rfl⟩
  | cons change changes ih =>
    obtain ⟨key, v⟩ := change
    cases fine : accepts key v with
    | false =>
      have none_before : accepted ((key, v) :: changes) = [] := by simp [accepted, fine]
      have refused : s.set? key v = none := by
        cases made : s.set? key v with
        | none => rfl
        | some t => rw [accepts_of_set? made] at fine; cases fine
      rw [none_before]
      refine ⟨s, rfl, .inr ⟨key, v, changes, rfl, fine, ?_⟩⟩
      simp only [update, set_eq, refused]
    | true =>
      have one_more : accepted ((key, v) :: changes) = (key, v) :: accepted changes := by
        simp [accepted, fine]
      obtain ⟨u, made⟩ := set?_of_accepts fine s
      have step : ∀ rest, s.update ((key, v) :: rest) = u.update rest := fun rest => by
        simp only [update, set_eq, made]
      obtain ⟨t, done, all | ⟨key', v', after, split, refused, failed⟩⟩ := ih u
      · exact ⟨t, by rw [one_more, step, done], .inl (by rw [one_more, all])⟩
      · refine ⟨t, by rw [one_more, step, done], .inr ⟨key', v', after, ?_, refused, ?_⟩⟩
        · rw [one_more, List.cons_append, ← split]
        · rw [step, failed]

end Settings

end ModelFormula
