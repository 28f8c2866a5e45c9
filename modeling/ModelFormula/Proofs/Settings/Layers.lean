import ModelFormula.Proofs.Dictionary
import ModelFormula.Proofs.Outcome
import ModelFormula.Proofs.Settings.Update
import ModelFormula.Session

/-!
# Layers of settings

Settings that come from several sources, each a dictionary of sections with dictionaries of fields,
are those of the sources field by field.

* `Layer` — what one source says; `Layer.value?` — about a field.
* `Layer.value?_merged` — a merge takes every field from the later layer, if that says anything about
  it.
* `Layers.environmentValue?`, `Layers.environment_eq` — what the environment says is a layer.
* `Section.ofEntries_spec`, `Settings.isChosen_ofEntries` — the settings that one layer stands for:
  fields take their values one by one, and the failure names all that do not.
* `Settings.isChosen_ofSources` — the settings of all sources.
-/

set_option autoImplicit false

namespace ModelFormula

/-- Values of fields, by the names of sections and fields; there may be others, too. -/
abbrev Layer := Dictionary String (Dictionary String Plain)

namespace Layer

/-- A layer as it is given, untyped. -/
def toPlain (l : Layer) : Dictionary String Plain := l.map fun e => (e.1, .dict e.2)

/-- What a layer says about a field. -/
def value? (l : Layer) (f : Field) : Option Plain := (l.get? f.group.name).bind (·.get? f.name)

/-- No section is given twice, and no field twice in a section. -/
def IsSimple (l : Layer) : Prop := l.keys.Nodup ∧ ∀ e ∈ l, e.2.keys.Nodup

/-! ## Merges -/

/-- A layer with a section added; its fields take the places of those that are there. -/
def added (l : Layer) (e : String × Dictionary String Plain) : Layer :=
  l.put e.1 (match l.get? e.1 with
    | some old => old.putAll e.2
    | none => e.2)

def merged (l others : Layer) : Layer := others.foldl added l

theorem get?_toPlain (l : Layer) (name : String) :
    l.toPlain.get? name = (l.get? name).map Plain.dict := Dictionary.get?_map Plain.dict l name

theorem mergeSection_toPlain (l : Layer) (e : String × Dictionary String Plain) :
    Layers.mergeSection l.toPlain (e.1, .dict e.2) = (l.added e).toPlain := by
  rw [Layers.mergeSection, get?_toPlain, added]
  cases l.get? e.1 <;> exact (Dictionary.map_put Plain.dict l e.1 _).symm

/-- Layers are merged as layers. -/
theorem merge_toPlain (l others : Layer) :
    Layers.merge l.toPlain others.toPlain = (l.merged others).toPlain := by
  induction others generalizing l with
  | nil => rfl
  | cons e others ih =>
    rw [merged, List.foldl_cons]
    refine Eq.trans ?_ (ih (l.added e))
    rw [← mergeSection_toPlain]
    rfl

end Layer

theorem Dictionary.get?_reverse_of_nodup {κ α : Type} [DecidableEq κ] {d : Dictionary κ α}
    (h : d.keys.Nodup) (k : κ) : Dictionary.get? d.reverse k = d.get? k := by
  have same := Dictionary.get?_putAll [] d k
  rw [Dictionary.putAll_of_nodup [] d (by simpa using h)] at same
  simpa [Dictionary.get?_nil] using same.symm

namespace Layer

theorem value?_cons (e : String × Dictionary String Plain) (l : Layer) (f : Field) :
    value? (e :: l) f = if e.1 = f.group.name then e.2.get? f.name else l.value? f := by
  rw [value?, Dictionary.get?_cons]
  split <;> rfl

/-- An added section speaks for its fields; what it does not say stays as it was. -/
theorem value?_added {l : Layer} {e : String × Dictionary String Plain} (once : e.2.keys.Nodup)
    (f : Field) : (l.added e).value? f =
      if e.1 = f.group.name then (e.2.get? f.name).or (l.value? f) else l.value? f := by
  rw [value?, added, Dictionary.get?_put]
  by_cases here : e.1 = f.group.name
  · rw [if_pos here.symm, if_pos here, value?, ← here]
    cases l.get? e.1 with
    | none => simp
    | some old =>
      simp [Dictionary.get?_putAll, Dictionary.get?_reverse_of_nodup once]
  · rw [if_neg (Ne.symm here), if_neg here]
    rfl

/-- **A merge takes every field from the later layer**, if that says anything about it. -/
theorem value?_merged (l : Layer) {others : Layer} (simple : others.IsSimple) (f : Field) :
    (l.merged others).value? f = (others.value? f).or (l.value? f) := by
  induction others generalizing l with
  | nil => rfl
  | cons e others ih =>
    obtain ⟨once, each⟩ := simple
    obtain ⟨fresh, once⟩ := List.nodup_cons.1 once
    rw [merged, List.foldl_cons]
    refine (ih (l.added e) ⟨once, fun x mem => each x (List.mem_cons_of_mem _ mem)⟩).trans ?_
    rw [value?_added (each e List.mem_cons_self), value?_cons]
    by_cases here : e.1 = f.group.name
    · have nothing_later : value? others f = none := by
        rw [value?, ← here, (Dictionary.get?_eq_none_iff others e.1).2 fresh]
        rfl
      simp [here, nothing_later]
    · simp [here]

/-! ## The environment -/

/-- One value of each of several fields, as a layer. -/
def ofFields (fields : List Field) (value : Field → Option Plain) : Layer :=
  fields.filterMap fun f => (value f).map fun v => (f.group.name, [(f.name, v)])

theorem ofFields_cons (f : Field) (fields : List Field) (value : Field → Option Plain) :
    ofFields (f :: fields) value =
      ((value f).map fun v => (f.group.name, [(f.name, v)])).toList ++ ofFields fields value := by
  rw [ofFields, List.filterMap_cons]
  cases value f <;> rfl

theorem mem_groups_of_mem_keys {fields : List Field} {value : Field → Option Plain} {name : String}
    (mem : name ∈ (ofFields fields value).keys) : ∃ f ∈ fields, f.group.name = name := by
  obtain ⟨e, entry, rfl⟩ := List.mem_map.1 mem
  obtain ⟨f, listed, made⟩ := List.mem_filterMap.1 entry
  obtain ⟨v, -, rfl⟩ := Option.map_eq_some_iff.1 made
  exact ⟨f, listed, rfl⟩

end Layer

theorem Section.name_injective {g g' : Section} (h : g.name = g'.name) : g = g' := by
  cases g <;> cases g' <;> first | rfl | exact absurd h (by decide)

/-- Two fields of a section have different names. -/
theorem Field.eq_of_name {f f' : Field} (group : f.group = f'.group) (name : f.name = f'.name) :
    f = f' := by
  cases f <;> cases f' <;> first | rfl | exact absurd group (by decide) | exact absurd name (by decide)

namespace Layer

theorem isSimple_ofFields {fields : List Field} (distinct : (fields.map Field.group).Nodup)
    (value : Field → Option Plain) : (ofFields fields value).IsSimple := by
  constructor
  · induction fields with
    | nil => exact List.nodup_nil
    | cons f fields ih =>
      obtain ⟨fresh, distinct⟩ := List.nodup_cons.1 distinct
      rw [ofFields_cons]
      cases value f with
      | none => exact ih distinct
      | some v =>
        refine List.nodup_cons.2 ⟨fun mem => fresh ?_, ih distinct⟩
        obtain ⟨f', inside, same⟩ := mem_groups_of_mem_keys mem
        exact List.mem_map.2 ⟨f', inside, Section.name_injective same⟩
  · intro e mem
    obtain ⟨f, -, made⟩ := List.mem_filterMap.1 mem
    obtain ⟨v, -, rfl⟩ := Option.map_eq_some_iff.1 made
    simp [Dictionary.keys]

/-- Such a layer speaks about its fields alone. -/
theorem value?_ofFields {fields : List Field} (distinct : (fields.map Field.group).Nodup)
    (value : Field → Option Plain) (f : Field) :
    (ofFields fields value).value? f = if f ∈ fields then value f else none := by
  induction fields with
  | nil => rfl
  | cons first fields ih =>
    obtain ⟨fresh, distinct⟩ := List.nodup_cons.1 distinct
    have other : f ∈ fields → f.group ≠ first.group := fun mem same =>
      fresh (List.mem_map.2 ⟨f, mem, same⟩)
    rw [ofFields_cons]
    cases given : value first with
    | none =>
      refine (ih distinct).trans ?_
      by_cases is : f = first
      · simp [is, given]
      · simp [is]
    | some v =>
      refine (value?_cons (first.group.name, [(first.name, v)]) (ofFields fields value) f).trans ?_
      rw [ih distinct, Dictionary.get?_cons, Dictionary.get?_nil]
      by_cases is : f = first
      · simp [is, given]
      · by_cases group : f.group = first.group
        · have name : first.name ≠ f.name := fun same => is (Field.eq_of_name group same.symm)
          have outside : f ∉ fields := fun mem => other mem group
          simp [is, group, name, outside]
        · have names : first.group.name ≠ f.group.name := fun same =>
            group (Section.name_injective same).symm
          simp [is, names]

end Layer

namespace Layers

/-- What the environment says about a field. -/
def environmentValue? (environment : Dictionary String String) : Field → Option Plain
  | .level => (environment.get? "FORMULA_JAX_LOG_LEVEL").map .text
  | .base =>
    (environment.get? "FORMULA_JAX_CONTRAST_BASE").bind fun s => (Text.wholeNumber? s).map .int
  | .precision => (environment.get? "FORMULA_JAX_MATRIX_DTYPE").map .text
  | _ => none

/-- The fields that the environment can set. -/
def watchedFields : List Field := watched.map (·.2)

def environmentLayer (environment : Dictionary String String) : Layer :=
  .ofFields watchedFields (environmentValue? environment)

theorem isSimple_environmentLayer (environment : Dictionary String String) :
    (environmentLayer environment).IsSimple := Layer.isSimple_ofFields (by decide) _

theorem value?_environmentLayer (environment : Dictionary String String) (f : Field) :
    (environmentLayer environment).value? f = environmentValue? environment f := by
  refine (Layer.value?_ofFields (by decide) _ f).trans ?_
  cases f <;> rfl

/-- What the environment says is a layer, if its base level is a whole number. -/
theorem environment_eq {environment : Dictionary String String}
    (whole : ∀ s, environment.get? "FORMULA_JAX_CONTRAST_BASE" = some s →
      (Text.wholeNumber? s).isSome = true) :
    Layers.environment environment = .ok (environmentLayer environment).toPlain := by
  simp only [Layers.environment, environmentOf, watched, environmentLayer, Layer.ofFields,
    watchedFields, List.map_cons, List.map_nil, List.filterMap_cons, List.filterMap_nil,
    environmentValue?]
  cases base : environment.get? "FORMULA_JAX_CONTRAST_BASE" with
  | none =>
    cases environment.get? "FORMULA_JAX_LOG_LEVEL" <;>
      cases environment.get? "FORMULA_JAX_MATRIX_DTYPE" <;> rfl
  | some s =>
    obtain ⟨n, number⟩ := Option.isSome_iff_exists.1 (whole s base)
    have read : variableValue .base s = .ok (.int n) := by
      simp only [variableValue, if_true, number]
    simp only [read, Option.bind_some, number]
    cases environment.get? "FORMULA_JAX_LOG_LEVEL" <;>
      cases environment.get? "FORMULA_JAX_MATRIX_DTYPE" <;> rfl

end Layers

/-! ## Settings of one layer -/

/-- What a field reads once it is set to a value, if it takes that. -/
def Field.read (f : Field) (v : Plain) : Option Plain := (f.assign v {}).map f.get

theorem Field.takes_iff {f : Field} {v : Plain} {s t : Settings} (h : f.assign v s = some t) :
    f.takes v = true ∧ f.read v = some (f.get t) := by
  obtain ⟨w, made, same⟩ := Field.assign_anywhere h {}
  exact ⟨by rw [Field.takes, made]; rfl, by rw [Field.read, made, ← same]; rfl⟩

theorem Field.takes_eq_false {f : Field} {v : Plain} {s : Settings} (h : f.assign v s = none) :
    f.takes v = false ∧ f.read v = none := by
  cases made : f.assign v {} with
  | none => exact ⟨by rw [Field.takes, made]; rfl, by rw [Field.read, made]; rfl⟩
  | some t =>
    obtain ⟨w, other, -⟩ := Field.assign_anywhere made s
    rw [h] at other
    cases other

/-- Whether a field is given a value that it does not take. -/
def misfit (chosen : Field → Option Plain) (f : Field) : Bool := (chosen f).any fun v => !f.takes v

/-- What fields read that are given values, those without one their defaults. -/
def reading (chosen : Field → Option Plain) (f : Field) : Plain :=
  ((chosen f).bind f.read).getD (f.get {})

namespace Section

variable {chosen : Field → Option Plain}

theorem gather_spec (entries : Dictionary String Plain) (state : Settings × List Field) (f : Field)
    (given : chosen f = entries.get? f.name) :
    (gather entries state f).2 = state.2 ++ [f].filter (misfit chosen) ∧
      ∀ f', f'.get (gather entries state f).1 =
        if f' = f then ((chosen f).bind f.read).getD (f.get state.1) else f'.get state.1 := by
  rw [gather, List.filter_cons, List.filter_nil, misfit, given]
  cases entries.get? f.name with
  | none => exact ⟨by simp, fun f' => by by_cases is : f' = f <;> simp [is]⟩
  | some v =>
    cases assigned : f.assign v state.1 with
    | none =>
      obtain ⟨refused, unread⟩ := Field.takes_eq_false assigned
      refine ⟨by simp [assigned, refused], fun f' => ?_⟩
      by_cases is : f' = f <;> simp [is, assigned, unread]
    | some t =>
      obtain ⟨taken, read⟩ := Field.takes_iff assigned
      refine ⟨by simp [assigned, taken], fun f' => ?_⟩
      by_cases is : f' = f
      · simp [is, assigned, read]
      · simp [is, assigned, Field.get_of_assign_ne assigned is]

/-- Fields of a section that are set one after the other read what the dictionary gives them. -/
theorem foldl_gather (entries : Dictionary String Plain) {fields : List Field}
    (distinct : fields.Nodup) (given : ∀ f ∈ fields, chosen f = entries.get? f.name)
    (state : Settings × List Field) :
    (fields.foldl (gather entries) state).2 = state.2 ++ fields.filter (misfit chosen) ∧
      ∀ f, f.get (fields.foldl (gather entries) state).1 =
        if f ∈ fields then ((chosen f).bind f.read).getD (f.get state.1) else f.get state.1 := by
  induction fields generalizing state with
  | nil => simp
  | cons first fields ih =>
    obtain ⟨fresh, distinct⟩ := List.nodup_cons.1 distinct
    obtain ⟨wrong, read⟩ := gather_spec entries state first (given first List.mem_cons_self)
    obtain ⟨all_wrong, all_read⟩ := ih distinct
      (fun f mem => given f (List.mem_cons_of_mem _ mem)) (gather entries state first)
    rw [List.foldl_cons]
    refine ⟨?_, fun f => ?_⟩
    · rw [all_wrong, wrong, List.append_assoc, ← List.filter_append, List.singleton_append]
    · rw [all_read, read]
      by_cases is : f = first
      · subst is
        simp [fresh]
      · simp [is]

/-- **The section of a dictionary**: its fields read what they are given, or their defaults, and those
that are given what they do not take are listed. -/
theorem ofEntries_spec (chosen : Field → Option Plain) (g : Section)
    {entries : Dictionary String Plain}
    (given : ∀ f ∈ Field.inGroup g, chosen f = entries.get? f.name) :
    (g.ofEntries entries).2 = (Field.inGroup g).filter (misfit chosen) ∧
      ∀ f ∈ Field.inGroup g, f.get (g.ofEntries entries).1 = reading chosen f := by
  have distinct : (Field.inGroup g).Nodup := by cases g <;> decide
  obtain ⟨wrong, read⟩ := foldl_gather entries distinct given ({}, [])
  refine ⟨wrong, fun f mem => ?_⟩
  rw [ofEntries, read, if_pos mem]
  rfl

end Section

namespace Settings

theorem gatherSection_spec (l : Layer) (state : Settings × List String) (g : Section)
    (fresh : ∀ f ∈ Field.inGroup g, f.get state.1 = f.get {}) :
    (gatherSection l.toPlain state g).2 =
        state.2 ++ ((Field.inGroup g).filter (misfit l.value?)).map Field.key ∧
      ∀ f : Field, f.get (gatherSection l.toPlain state g).1 =
        if f.group = g then reading l.value? f else f.get state.1 := by
  rw [gatherSection, Layer.get?_toPlain]
  cases here : l.get? g.name with
  | none =>
    have nothing : ∀ f ∈ Field.inGroup g, l.value? f = none := by
      intro f mem
      rw [Layer.value?, Field.mem_inGroup.1 mem, here]
      rfl
    refine ⟨?_, fun f => ?_⟩
    · have none_wrong : (Field.inGroup g).filter (misfit l.value?) = [] :=
        List.filter_eq_nil_iff.2 fun f mem => by simp [misfit, nothing f mem]
      simp [none_wrong]
    · by_cases group : f.group = g
      · have mem := Field.mem_inGroup.2 group
        rw [if_pos group, reading, nothing f mem]
        exact fresh f mem
      · rw [if_neg group]
        rfl
  | some entries =>
    obtain ⟨wrong, read⟩ := Section.ofEntries_spec l.value? g fun f mem =>
      show _ = entries.get? f.name by
        rw [Layer.value?, Field.mem_inGroup.1 mem, here]
        rfl
    refine ⟨?_, fun f => ?_⟩
    · simp only [Option.map_some, wrong]
    · simp only [Option.map_some]
      rw [Section.get_replace]
      split
      · rename_i group
        exact read f (Field.mem_inGroup.2 group)
      · rfl

/-- Sections of a layer that are taken one after the other, none of them twice. -/
theorem foldl_gatherSection (l : Layer) {groups : List Section} (distinct : groups.Nodup)
    (state : Settings × List String)
    (fresh : ∀ f : Field, f.group ∈ groups → f.get state.1 = f.get {}) :
    (groups.foldl (gatherSection l.toPlain) state).2 =
        state.2 ++ ((groups.flatMap Field.inGroup).filter (misfit l.value?)).map Field.key ∧
      ∀ f : Field, f.get (groups.foldl (gatherSection l.toPlain) state).1 =
        if f.group ∈ groups then reading l.value? f else f.get state.1 := by
  induction groups generalizing state with
  | nil => simp
  | cons g groups ih =>
    obtain ⟨once, distinct⟩ := List.nodup_cons.1 distinct
    obtain ⟨wrong, read⟩ := gatherSection_spec l state g fun f mem =>
      fresh f (by simp [Field.mem_inGroup.1 mem])
    have still_fresh : ∀ f : Field, f.group ∈ groups →
        f.get (gatherSection l.toPlain state g).1 = f.get {} := by
      intro f mem
      have other : f.group ≠ g := fun same => once (same ▸ mem)
      rw [read, if_neg other, fresh f (List.mem_cons_of_mem _ mem)]
    obtain ⟨all_wrong, all_read⟩ := ih distinct (gatherSection l.toPlain state g) still_fresh
    rw [List.foldl_cons]
    refine ⟨?_, fun f => ?_⟩
    · rw [all_wrong, wrong, List.flatMap_cons, List.filter_append, List.map_append,
        List.append_assoc]
    · rw [all_read, read]
      by_cases group : f.group = g
      · simp [group, once]
      · simp [group]

/-- The fields that are given a value that they do not take. -/
def misfits (chosen : Field → Option Plain) : List Field := Field.all.filter (misfit chosen)

/-- Settings made of values that are chosen for the fields, each for itself.  They fail if some field
does not take its value, and the failure names all such fields. -/
structure IsChosen (chosen : Field → Option Plain) (result : Except Failure Settings) : Prop where
  ok_iff : ∀ s, result = .ok s ↔ misfits chosen = [] ∧ ∀ f : Field, f.get s = reading chosen f
  error_iff : ∀ e, result = .error e ↔ misfits chosen ≠ [] ∧
    e = .configuration (", ".intercalate ((misfits chosen).map Field.key))

/-- **The settings of one layer** take each field from it. -/
theorem isChosen_ofEntries (l : Layer) : IsChosen l.value? (ofEntries l.toPlain) := by
  have distinct : Section.all.Nodup := by decide
  obtain ⟨wrong, read⟩ := foldl_gatherSection l distinct ({}, []) fun f _ => rfl
  have every : ∀ f : Field, f.group ∈ Section.all := fun f => by cases f <;> decide
  have in_order : Section.all.flatMap Field.inGroup = Field.all := by decide
  rw [in_order, List.nil_append] at wrong
  rw [ofEntries]
  generalize Section.all.foldl (gatherSection l.toPlain) ({}, []) = made at wrong read
  obtain ⟨s, keys⟩ := made
  obtain rfl : keys = (misfits l.value?).map Field.key := wrong
  have reads : ∀ f : Field, f.get s = reading l.value? f := fun f =>
    (read f).trans (if_pos (every f))
  cases faults : misfits l.value? with
  | nil =>
    refine ⟨fun t => ⟨?_, ?_⟩, fun e => ⟨fun failed => ?_, fun some_fault => ?_⟩⟩
    · rintro ⟨⟩
      exact ⟨faults, reads⟩
    · rintro ⟨-, same⟩
      exact congrArg Except.ok (ext_get fun f => (reads f).trans (same f).symm)
    · cases failed
    · exact absurd faults some_fault.1
  | cons f rest =>
    refine ⟨fun t => ⟨fun made => ?_, fun no_fault => ?_⟩, fun e => ⟨?_, ?_⟩⟩
    · cases made
    · rw [faults] at no_fault
      cases no_fault.1
    · rintro ⟨⟩
      exact ⟨by simp [faults], by rw [faults]⟩
    · rintro ⟨-, rfl⟩
      rw [faults]
      rfl

/-! ## All sources -/

/-- The value that is chosen for a field: the given one, or else that of the environment, or else that
of the document. -/
def chosen (document : Layer) (environment : Dictionary String String) (given : Layer) (f : Field) :
    Option Plain :=
  (given.value? f).or ((Layers.environmentValue? environment f).or (document.value? f))

theorem isChosen_ofSources {document given : Layer} {environment : Dictionary String String}
    (simple : given.IsSimple)
    (whole : ∀ s, environment.get? "FORMULA_JAX_CONTRAST_BASE" = some s →
      (Text.wholeNumber? s).isSome = true) :
    IsChosen (chosen document environment given)
      (ofSources (.sections document.toPlain true) environment given.toPlain) := by
  have layered : ofSources (.sections document.toPlain true) environment given.toPlain =
      ofEntries ((document.merged (Layers.environmentLayer environment)).merged given).toPlain := by
    rw [ofSources, Layers.environment_eq whole, ← Layer.merge_toPlain, ← Layer.merge_toPlain]
    rfl
  have values : chosen document environment given =
      ((document.merged (Layers.environmentLayer environment)).merged given).value? := by
    funext f
    rw [Layer.value?_merged _ simple,
      Layer.value?_merged _ (Layers.isSimple_environmentLayer environment),
      Layers.value?_environmentLayer]
    rfl
  rw [layered, values]
  exact isChosen_ofEntries _

end Settings

end ModelFormula
