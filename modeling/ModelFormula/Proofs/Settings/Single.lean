import ModelFormula.Proofs.Settings.Layers

/-!
# A value given and a value set

A single value can be given when settings are made, or set afterwards under the key of its field.

* `Settings.set?_key`, `Settings.set?_of_unknown` — what is set under the key of a field, and that
  nothing is set under a key that is none.
* `Settings.ofSources_single`, `Settings.ofSources_single_of_unknown` — what a given value does; one
  without a field is passed over.
* `Settings.given_agrees_with_set_iff` — both come to the same exactly for the fields that there are.
-/

set_option autoImplicit false

namespace ModelFormula

namespace Settings

variable {s : Settings} {v : Plain} {sectionName fieldName : String}

/-! ## Keys -/

/-- A key is split at its first point. -/
theorem splitKey_ofList {before after : List Char} (first : '.' ∉ before) :
    splitKey (String.ofList (before ++ '.' :: after)) =
      (String.ofList before, String.ofList after) := by
  have up_to : (before ++ '.' :: after).takeWhile (· != '.') = before := by
    rw [List.takeWhile_append_of_pos]
    · simp
    · intro c mem
      have other : c ≠ '.' := fun same => first (same ▸ mem)
      simpa using other
  simp only [splitKey, String.toList_ofList, up_to]
  rw [List.drop_append, List.drop_of_length_le (Nat.le_succ _)]
  simp

/-- The key of a section and a field is split between them, or else inside the name of the section. -/
theorem splitKey_joined (sectionName fieldName : String) :
    splitKey (sectionName ++ "." ++ fieldName) = (sectionName, fieldName) ∨
      ∃ before after, splitKey (sectionName ++ "." ++ fieldName) = (before, after) ∧
        '.' ∈ after.toList := by
  have joined : sectionName ++ "." ++ fieldName =
      String.ofList (sectionName.toList ++ '.' :: fieldName.toList) := by
    apply String.toList_injective
    simp
  rw [joined]
  by_cases inside : '.' ∈ sectionName.toList
  · obtain ⟨before, rest, split, first⟩ := List.eq_append_cons_of_mem inside
    refine .inr ⟨String.ofList before, String.ofList (rest ++ '.' :: fieldName.toList), ?_, by simp⟩
    rw [split, List.append_assoc, List.cons_append]
    exact splitKey_ofList first
  · rw [splitKey_ofList inside, String.ofList_toList, String.ofList_toList]
    exact .inl rfl

theorem name_of_ofName? {g : Section} {name : String} (h : Section.ofName? name = some g) :
    g.name = name := by simpa using List.find?_some h

theorem of_fieldName? {g : Section} {f : Field} {name : String}
    (h : Field.ofName? g name = some f) : f.group = g ∧ f.name = name :=
  ⟨Field.mem_inGroup.1 (List.mem_of_find?_eq_some h), by simpa using List.find?_some h⟩

/-- Under the key of a field the field is set. -/
theorem set?_key (s : Settings) (f : Field) (v : Plain) :
    s.set? (f.group.name ++ "." ++ f.name) v = f.assign v s := by
  cases f <;> rfl

/-- A value that is no dictionary is not set under a key without a field. -/
theorem set?_of_unknown (unknown : ¬∃ f : Field, f.group.name = sectionName ∧ f.name = fieldName)
    (single : ∀ entries, v ≠ .dict entries) (s : Settings) :
    s.set? (sectionName ++ "." ++ fieldName) v = none := by
  obtain split | ⟨before, after, split, point⟩ := splitKey_joined sectionName fieldName
  · rw [set?, split]
    dsimp only
    cases group : Section.ofName? sectionName with
    | none => rfl
    | some g =>
      dsimp only
      by_cases whole : fieldName = ""
      · rw [if_pos whole, Section.assign]
        exact single
      · rw [if_neg whole]
        cases found : Field.ofName? g fieldName with
        | none => rfl
        | some f =>
          obtain ⟨rfl, named⟩ := of_fieldName? found
          exact absurd ⟨f, name_of_ofName? group, named⟩ unknown
  · rw [set?, split]
    dsimp only
    cases Section.ofName? before with
    | none => rfl
    | some g =>
      have some_text : after ≠ "" := by
        rintro rfl
        cases point
      dsimp only
      rw [if_neg some_text]
      cases found : Field.ofName? g after with
      | none => rfl
      | some f =>
        -- No field has a point in its name.
        obtain ⟨-, rfl⟩ := of_fieldName? found
        have plain : '.' ∉ f.name.toList := by cases f <;> decide
        exact absurd point plain

/-! ## A value that is given -/

variable {environment : Dictionary String String}

/-- Settings can be made from an environment only if its base level is a whole number. -/
theorem whole_of_ofSources {document : DocumentRoot} {given : Dictionary String Plain}
    (made : ofSources document environment given = .ok s) :
    ∀ s, environment.get? "FORMULA_JAX_CONTRAST_BASE" = some s →
      (Text.wholeNumber? s).isSome = true := by
  intro text found
  obtain ⟨sections, read, -⟩ := bind_eq_ok.1 made
  cases number : Text.wholeNumber? text with
  | some n => rfl
  | none =>
    have wrong : Layers.variableValue .base text = .error (.configuration Field.base.key) := by
      simp only [Layers.variableValue, if_true, number]
    simp only [Layers.environment, Layers.watched, Layers.environmentOf, found, wrong] at read
    cases level : environment.get? "FORMULA_JAX_LOG_LEVEL" <;> rw [level] at read <;> cases read

/-- One value of one field. -/
def single (sectionName fieldName : String) (v : Plain) : Layer := [(sectionName, [(fieldName, v)])]

theorem isSimple_single (sectionName fieldName : String) (v : Plain) :
    (single sectionName fieldName v).IsSimple := by
  constructor <;> simp [single, Dictionary.keys]

theorem value?_single (sectionName fieldName : String) (v : Plain) (f : Field) :
    (single sectionName fieldName v).value? f =
      if f.group.name = sectionName ∧ f.name = fieldName then some v else none := by
  refine (Layer.value?_cons _ [] f).trans ?_
  by_cases here : sectionName = f.group.name
  · by_cases named : fieldName = f.name
    · simp [here, named, Dictionary.get?_cons]
    · simp [here, named, Ne.symm named, Dictionary.get?_cons, Dictionary.get?_nil]
  · simp [here, Ne.symm here]
    rfl

/-- What is chosen without a document and given values. -/
abbrev chosenAlone (environment : Dictionary String String) : Field → Option Plain :=
  chosen [] environment []

theorem chosen_single (sectionName fieldName : String) (v : Plain) (f : Field) :
    chosen [] environment (single sectionName fieldName v) f =
      if f.group.name = sectionName ∧ f.name = fieldName then some v
      else chosenAlone environment f := by
  rw [chosen, value?_single]
  split <;> rfl

/-- Settings of an environment, with one value given besides. -/
abbrev withValue (environment : Dictionary String String) (sectionName fieldName : String)
    (v : Plain) : Except Failure Settings :=
  ofSources (.sections [] true) environment [(sectionName, .dict [(fieldName, v)])]

theorem isChosen_single (made : ofSources (.sections [] true) environment [] = .ok s)
    (sectionName fieldName : String) (v : Plain) :
    IsChosen (chosen [] environment (single sectionName fieldName v))
      (withValue environment sectionName fieldName v) :=
  isChosen_ofSources (isSimple_single sectionName fieldName v) (whole_of_ofSources made)

/-- Settings of the environment alone read what this chooses, and nothing is wrong with it. -/
theorem of_environment (made : ofSources (.sections [] true) environment [] = .ok s) :
    (∀ f, misfit (chosenAlone environment) f = false) ∧
      ∀ f : Field, f.get s = reading (chosenAlone environment) f := by
  have alone : IsChosen (chosenAlone environment)
      (ofSources (.sections [] true) environment []) :=
    isChosen_ofSources ⟨List.nodup_nil, by simp⟩ (whole_of_ofSources made)
  obtain ⟨no_fault, reads⟩ := (alone.ok_iff s).1 made
  refine ⟨fun f => ?_, reads⟩
  have every : f ∈ Field.all := by cases f <;> decide
  simpa using List.filter_eq_nil_iff.1 no_fault f every

/-- A value that is given for a field is set, or the failure names the field. -/
theorem ofSources_single (made : ofSources (.sections [] true) environment [] = .ok s) (f : Field)
    (v : Plain) :
    withValue environment f.group.name f.name v =
      match f.assign v s with
      | some t => .ok t
      | none => .error (.configuration f.key) := by
  have result := isChosen_single made f.group.name f.name v
  obtain ⟨no_fault, reads⟩ := of_environment made
  have values : ∀ f' : Field, chosen [] environment (single f.group.name f.name v) f' =
      if f' = f then some v else chosenAlone environment f' := by
    intro f'
    rw [chosen_single]
    by_cases is : f' = f
    · simp [is]
    · have other : ¬(f'.group.name = f.group.name ∧ f'.name = f.name) := fun same =>
        is (Field.eq_of_name (Section.name_injective same.1) same.2)
      rw [if_neg is, if_neg other]
  cases assigned : f.assign v s with
  | some t =>
    obtain ⟨taken, read⟩ := Field.takes_iff assigned
    refine (result.ok_iff t).2 ⟨List.filter_eq_nil_iff.2 fun f' _ => ?_, fun f' => ?_⟩
    · by_cases is : f' = f
      · simp [misfit, values, is, taken]
      · simpa [misfit, values, is] using no_fault f'
    · by_cases is : f' = f
      · simp [reading, values, is, read]
      · rw [Field.get_of_assign_ne assigned is, reads, reading, reading, values, if_neg is]
  | none =>
    obtain ⟨refused, -⟩ := Field.takes_eq_false assigned
    have only : misfits (chosen [] environment (single f.group.name f.name v)) = [f] := by
      have wrong : misfit (chosen [] environment (single f.group.name f.name v)) =
          fun f' => decide (f' = f) := by
        funext f'
        by_cases is : f' = f
        · simp [misfit, values, is, refused]
        · simpa [misfit, values, is] using no_fault f'
      rw [misfits, wrong]
      cases f <;> rfl
    exact (result.error_iff _).2 ⟨by simp [only], by rw [only]; rfl⟩

/-- A given value without a field is passed over. -/
theorem ofSources_single_of_unknown (made : ofSources (.sections [] true) environment [] = .ok s)
    (unknown : ¬∃ f : Field, f.group.name = sectionName ∧ f.name = fieldName) (v : Plain) :
    withValue environment sectionName fieldName v = .ok s := by
  have result := isChosen_single made sectionName fieldName v
  have values : chosen [] environment (single sectionName fieldName v) = chosenAlone environment := by
    funext f
    rw [chosen_single, if_neg fun named => unknown ⟨f, named⟩]
  obtain ⟨no_fault, reads⟩ := of_environment made
  rw [values] at result
  exact (result.ok_iff s).2 ⟨List.filter_eq_nil_iff.2 fun f _ => by simp [no_fault f], reads⟩

/-! ## Both ways -/

/-- Settings with one value set under the key of a section and a field. -/
abbrev valueSet (s : Settings) (sectionName fieldName : String) (v : Plain) :
    Settings × Except Failure Unit := s.update [(sectionName ++ "." ++ fieldName, v)]

theorem valueSet_eq (s : Settings) (sectionName fieldName : String) (v : Plain) :
    valueSet s sectionName fieldName v =
      match s.set? (sectionName ++ "." ++ fieldName) v with
      | some t => (t, .ok ())
      | none => (s, .error (.configuration (sectionName ++ "." ++ fieldName))) := by
  rw [valueSet, update, set_eq]
  cases s.set? (sectionName ++ "." ++ fieldName) v <;> rfl

/-- Both ways fail, or both come to the same settings. -/
def Agree (made : Except Failure Settings) (changed : Settings × Except Failure Unit) : Prop :=
  ((∃ e, made = .error e) ↔ ∃ e, changed.2 = .error e) ∧
    ∀ t, made = .ok t → changed.2 = .ok () → changed.1 = t

theorem agree_ok (t : Settings) : Agree (.ok t) (t, .ok ()) := by simp [Agree]

theorem agree_error (e e' : Failure) (t : Settings) : Agree (.error e) (t, .error e') := by
  simp [Agree]

/-- A call that returns does not agree with one that fails. -/
theorem not_agree (e : Failure) (t u : Settings) : ¬Agree (.ok t) (u, .error e) := by simp [Agree]

/-- **A value that is given when settings are made and one that is set on those made without it** come
to the same exactly if it is given for a field that there is: then both are taken, or both fail and
name the field.  Where there is no such field, the given value is passed over and the other one
fails. -/
theorem given_agrees_with_set_iff (made : ofSources (.sections [] true) environment [] = .ok s)
    (sectionName fieldName : String) (value : ∀ entries, v ≠ .dict entries) :
    (Agree (withValue environment sectionName fieldName v) (valueSet s sectionName fieldName v) ↔
      ∃ f : Field, f.group.name = sectionName ∧ f.name = fieldName) ∧
    (∀ f : Field, f.group.name = sectionName → f.name = fieldName →
      (∃ t, withValue environment sectionName fieldName v = .ok t ∧
        valueSet s sectionName fieldName v = (t, .ok ())) ∨
      (withValue environment sectionName fieldName v = .error (.configuration f.key) ∧
        valueSet s sectionName fieldName v = (s, .error (.configuration f.key)))) ∧
    ((¬∃ f : Field, f.group.name = sectionName ∧ f.name = fieldName) →
      withValue environment sectionName fieldName v = .ok s ∧
        valueSet s sectionName fieldName v =
          (s, .error (.configuration (sectionName ++ "." ++ fieldName)))) := by
  have known : ∀ f : Field, f.group.name = sectionName → f.name = fieldName →
      (∃ t, withValue environment sectionName fieldName v = .ok t ∧
        valueSet s sectionName fieldName v = (t, .ok ())) ∨
      (withValue environment sectionName fieldName v = .error (.configuration f.key) ∧
        valueSet s sectionName fieldName v = (s, .error (.configuration f.key))) := by
    rintro f rfl rfl
    rw [ofSources_single made, valueSet_eq, set?_key]
    cases f.assign v s with
    | some t => exact .inl ⟨t, rfl, rfl⟩
    | none => exact .inr ⟨rfl, rfl⟩
  have unknown : (¬∃ f : Field, f.group.name = sectionName ∧ f.name = fieldName) →
      withValue environment sectionName fieldName v = .ok s ∧
        valueSet s sectionName fieldName v =
          (s, .error (.configuration (sectionName ++ "." ++ fieldName))) := by
    intro no_field
    rw [ofSources_single_of_unknown made no_field, valueSet_eq, set?_of_unknown no_field value]
    exact ⟨rfl, rfl⟩
  refine ⟨⟨fun agree => Classical.byContradiction fun no_field => ?_, ?_⟩, known, unknown⟩
  · obtain ⟨given, changed⟩ := unknown no_field
    rw [given, changed] at agree
    exact not_agree _ _ _ agree
  · rintro ⟨f, group, name⟩
    obtain ⟨t, given, changed⟩ | ⟨given, changed⟩ := known f group name
    · rw [given, changed]
      exact agree_ok t
    · rw [given, changed]
      exact agree_error _ _ s

/-- Numbers in single precision, from the environment. -/
def singlePrecision : Dictionary String String := [("FORMULA_JAX_MATRIX_DTYPE", "float32")]

/-- A level in small letters is taken both ways, one that there is not is refused both ways, and a
field that there is not matters only where it is set. -/
theorem given_agrees_with_set_iff_levels :
    ofSources (.sections [] true) singlePrecision [] =
      .ok { matrix := { precision := .single } } ∧
    Agree (withValue singlePrecision "logging" "level" (.text "debug"))
      (valueSet { matrix := { precision := .single } } "logging" "level" (.text "debug")) ∧
    withValue singlePrecision "logging" "level" (.text "debug") =
      .ok { logging := { level := .debug }, matrix := { precision := .single } } ∧
    Agree (withValue singlePrecision "logging" "level" (.int 10))
      (valueSet { matrix := { precision := .single } } "logging" "level" (.int 10)) ∧
    withValue singlePrecision "logging" "level" (.int 10) =
      .error (.configuration "logging.level") ∧
    ¬Agree (withValue singlePrecision "logging" "colour" (.bool true))
      (valueSet { matrix := { precision := .single } } "logging" "colour" (.bool true)) := by
  have made : ofSources (.sections [] true) singlePrecision [] =
      .ok { matrix := { precision := .single } } := rfl
  refine ⟨made, (given_agrees_with_set_iff made _ _ (by simp)).1.2 ⟨.level, rfl, rfl⟩, rfl,
    (given_agrees_with_set_iff made _ _ (by simp)).1.2 ⟨.level, rfl, rfl⟩, rfl, fun agree => ?_⟩
  obtain ⟨f, group, name⟩ := (given_agrees_with_set_iff made _ _ (by simp)).1.1 agree
  cases f <;> first | exact absurd group (by decide) | exact absurd name (by decide)

/-- A misspelt base level is passed over when settings are made, and fails when it is set. -/
theorem not_agree_misspeltBase :
    withValue [] "contrasts" "bse" (.int 2) = .ok {} ∧
    valueSet {} "contrasts" "bse" (.int 2) = ({}, .error (.configuration "contrasts.bse")) ∧
    ¬Agree (withValue [] "contrasts" "bse" (.int 2)) (valueSet {} "contrasts" "bse" (.int 2)) := by
  have given : withValue [] "contrasts" "bse" (.int 2) = .ok {} := rfl
  have changed : valueSet {} "contrasts" "bse" (.int 2) =
      ({}, .error (.configuration "contrasts.bse")) := rfl
  refine ⟨given, changed, fun agree => ?_⟩
  rw [given, changed] at agree
  exact not_agree _ _ _ agree

end Settings

end ModelFormula
