import ModelFormula.Proofs.Outcome
import ModelFormula.Proofs.Settings.Update
import ModelFormula.Settings.Layers

/-!
# Valid settings

Every way to make or change settings checks their values, so that no field reads anything it should
not, also after changes of which one failed.

* `Field.Allows`, `Settings.IsValid` — what the fields of settings may read.
* `Settings.isValid_iff` — all that the types of the fields leave open is the base level.
* `Field.isValid_assign`, `Section.isValid_assign`, `Settings.isValid_update` — changes keep settings
  valid.
* `Settings.isValid_ofSources` — settings from a document, the environment and given values are
  valid.
-/

set_option autoImplicit false

namespace ModelFormula

/-- What a field may read. -/
def Field.Allows (f : Field) (v : Plain) : Prop :=
  match f with
  | .level => ∃ name ∈ ["DEBUG", "INFO", "WARNING", "ERROR", "CRITICAL"], v = .text name
  | .fileLogging => ∃ b, v = .bool b
  | .logFile => v = .null ∨ ∃ path, v = .text path
  | .console => ∃ b, v = .bool b
  | .format => ∃ form, v = .text form
  | .base => ∃ n, v = .int n ∧ 1 ≤ n
  | .dropUnusedLevels => ∃ b, v = .bool b
  | .textsAsFactors => ∃ b, v = .bool b
  | .precision => ∃ name ∈ ["float32", "float64"], v = .text name
  | .exported => ∃ name ∈ ["float32", "float64"], v = .text name

/-- Settings whose fields all read what they may. -/
def Settings.IsValid (s : Settings) : Prop := ∀ f : Field, f.Allows (f.get s)

variable {s t : Settings} {v : Plain}

theorem Precision.name_mem (p : Precision) : p.name ∈ ["float32", "float64"] := by
  cases p <;> decide

theorem Severity.name_mem (level : Severity) :
    level.name ∈ ["DEBUG", "INFO", "WARNING", "ERROR", "CRITICAL"] := by
  cases level <;> decide

/-- All that the types of the fields leave open is the base level. -/
theorem Settings.isValid_iff : s.IsValid ↔ 1 ≤ s.contrasts.base := by
  constructor
  · intro valid
    obtain ⟨n, same, positive⟩ := valid .base
    rw [Plain.int.inj same]
    exact positive
  · intro positive f
    cases f with
    | level => exact ⟨_, s.logging.level.name_mem, rfl⟩
    | logFile =>
      cases path : s.logging.logFile with
      | none => exact .inl (by rw [Field.get, path]; rfl)
      | some p => exact .inr ⟨p.text, by rw [Field.get, path]; rfl⟩
    | base => exact ⟨_, rfl, positive⟩
    | precision => exact ⟨_, s.matrix.precision.name_mem, rfl⟩
    | exported => exact ⟨_, s.matrix.exported.name_mem, rfl⟩
    | _ => exact ⟨_, rfl⟩

theorem Settings.isValid_default : ({} : Settings).IsValid := isValid_iff.2 (Int.le_refl 1)

/-! ## One change -/

theorem Field.isValid_assign {f : Field} (h : f.assign v s = some t) (valid : s.IsValid) :
    t.IsValid := by
  rw [Settings.isValid_iff] at valid ⊢
  cases f with
  | base =>
    obtain ⟨n, read, rfl⟩ := Option.map_eq_some_iff.1 h
    simpa using (Option.filter_eq_some_iff.1 read).2
  | _ =>
    obtain ⟨x, -, rfl⟩ := Option.map_eq_some_iff.1 h
    exact valid

namespace Section

theorem isValid_replace (g : Section) (hs : s.IsValid) (ht : t.IsValid) :
    (g.replace s t).IsValid := by
  intro f
  rw [get_replace]
  split
  · exact hs f
  · exact ht f

theorem isValid_gather {entries : Dictionary String Plain} {state : Settings × List Field}
    (valid : state.1.IsValid) (f : Field) : (gather entries state f).1.IsValid := by
  unfold gather
  split
  · exact valid
  · split
    · rename_i assigned
      exact Field.isValid_assign assigned valid
    · exact valid

/-- A section made from a dictionary is valid, whatever the dictionary holds. -/
theorem isValid_ofEntries (g : Section) (entries : Dictionary String Plain) :
    (g.ofEntries entries).1.IsValid :=
  List.foldlRecOn (motive := fun state => state.1.IsValid) (Field.inGroup g) (gather entries)
    Settings.isValid_default fun _ valid f _ => isValid_gather valid f

theorem isValid_assign {g : Section} (h : g.assign v s = some t) (valid : s.IsValid) :
    t.IsValid := by
  unfold assign at h
  split at h
  · rename_i entries
    split at h
    · rename_i source made
      have fresh := isValid_ofEntries g entries
      rw [made] at fresh
      cases h
      exact isValid_replace g fresh valid
    · cases h
  · cases h

end Section

namespace Settings

theorem isValid_set? {key : String} (h : s.set? key v = some t) (valid : s.IsValid) :
    t.IsValid := by
  obtain ⟨g, -, assigned, -⟩ | ⟨f, -, assigned, -⟩ := set?_cases h
  · exact Section.isValid_assign assigned valid
  · exact Field.isValid_assign assigned valid

/-! ## Several changes -/

/-- **Changes keep settings valid**, also when one of them fails. -/
theorem isValid_update (valid : s.IsValid) (changes : List (String × Plain)) :
    (s.update changes).1.IsValid := by
  induction changes generalizing s with
  | nil => exact valid
  | cons change changes ih =>
    obtain ⟨key, v⟩ := change
    rw [update, set_eq]
    cases made : s.set? key v with
    | none => exact valid
    | some t => exact ih (isValid_set? made valid)

/-! ## Sources -/

theorem isValid_gatherSection {sections : Dictionary String Plain} {state : Settings × List String}
    (valid : state.1.IsValid) (g : Section) : (gatherSection sections state g).1.IsValid := by
  unfold gatherSection
  split
  · exact valid
  · exact Section.isValid_replace g (Section.isValid_ofEntries g _) valid
  · exact valid

theorem isValid_ofEntries {sections : Dictionary String Plain} (h : ofEntries sections = .ok s) :
    s.IsValid := by
  have all : (Section.all.foldl (gatherSection sections) ({}, [])).1.IsValid :=
    List.foldlRecOn (motive := fun state => state.1.IsValid) Section.all (gatherSection sections)
      isValid_default fun _ valid g _ => isValid_gatherSection valid g
  unfold ofEntries at h
  split at h
  · rename_i made
    rw [made] at all
    cases h
    exact all
  · cases h

/-- **Settings from all sources are valid.** -/
theorem isValid_ofSources {document : DocumentRoot} {environment : Dictionary String String}
    {given : Dictionary String Plain} (h : ofSources document environment given = .ok s) :
    s.IsValid := by
  obtain ⟨fromEnvironment, -, h⟩ := bind_eq_ok.1 h
  cases document with
  | sections entries textKeys =>
    cases textKeys with
    | true => exact isValid_ofEntries h
    | false => cases h
  | other => cases h

end Settings

end ModelFormula
