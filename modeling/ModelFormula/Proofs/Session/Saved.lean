import ModelFormula.Proofs.Document.Blocks
import ModelFormula.Proofs.Files
import ModelFormula.Proofs.Session.Calls
import ModelFormula.Proofs.Session.Sources
import ModelFormula.Proofs.Settings.Valid

/-!
# Saved settings load back

Settings are saved as a document of sections and fields, and loaded from it field by field.

* `Settings.Reached` — settings that changes lead to from the defaults.
* `Settings.savedLayer` — what saved settings say.
* `Session.loadDocument_saved` — the document of saved settings says that.
* `Session.loadSettings_saved` — settings that are saved load back as they were.
-/

set_option autoImplicit false

namespace ModelFormula

/-! ## Settings that can be reached -/

/-- Settings that changes lead to from the defaults, with those that failed on their way. -/
inductive Settings.Reached : Settings → Prop
  | default : Settings.Reached {}
  | update {c : Settings} (h : Settings.Reached c) (changes : Dictionary String Plain) :
      Settings.Reached (c.update changes).1
  | setupLogging {s : Session} (h : Settings.Reached s.settings)
      (level console path form : Plain) :
      Settings.Reached ((Session.setupLogging level console path form).run.run s).2.settings

theorem Settings.Reached.isValid {c : Settings} (h : c.Reached) : c.IsValid := by
  induction h with
  | default => exact isValid_default
  | update h changes valid => exact isValid_update valid changes
  | @setupLogging s h level console path form valid =>
    have changed := Session.setFields_keeps Field.isValid_assign
      (Session.loggingFields level console path form) valid
    rw [Session.run_setupLogging]
    generalize (Session.setFields _).run.run s = result at changed
    obtain ⟨_ | _, t⟩ := result <;> exact changed

/-! ## Fields -/

theorem Setting.level?_name (level : Severity) :
    Setting.level? (.text level.name) = some level := by
  cases level <;> decide

theorem Setting.precision?_name (p : Precision) : Setting.precision? (.text p.name) = some p := by
  cases p <;> decide

theorem Setting.path?_text (path : Option FilePath) :
    Setting.path? ((path.map fun p => Plain.text p.text).getD .null) = some path := by
  cases path with
  | none => rfl
  | some p => exact congrArg (fun q => some (some q)) (FilePath.ofText_text p)

/-- A field takes the value that it reads, and so nothing changes. -/
theorem Field.assign_get {c : Settings} (valid : c.IsValid) (f : Field) :
    f.assign (f.get c) c = some c := by
  cases f with
  | level => rw [assign, get, Setting.level?_name]; rfl
  | logFile => rw [assign, get, Setting.path?_text]; rfl
  | base =>
    have positive : 1 ≤ c.contrasts.base := Settings.isValid_iff.1 valid
    have read : Setting.base? (.int c.contrasts.base) = some c.contrasts.base := by
      simp [Setting.base?, Setting.integer?, positive]
    rw [assign, get, read]
    rfl
  | precision => rw [assign, get, Setting.precision?_name]; rfl
  | exported => rw [assign, get, Setting.precision?_name]; rfl
  | _ => rfl

/-! ## What saved settings say -/

namespace Document

/-- Entries with texts for keys are put one after the other. -/
theorem toPlainEntries_texts (found : Dictionary String Plain) (es : List (String × Document)) :
    toPlainEntries found (es.map fun e => (.scalar (.text e.1), e.2)) =
      found.putAll (es.map fun e => (e.1, e.2.toPlain)) := by
  induction es generalizing found with
  | nil => rfl
  | cons e es ih => exact ih (found.put e.1 e.2.toPlain)

section

variable {α : Type} {entries : Dictionary String α} (distinct : entries.keys.Nodup)

include distinct

theorem nodup_keys_sorted : (Dictionary.keys (sorted entries)).Nodup :=
  ((List.perm_insertionSort _ entries).map _).nodup_iff.2 distinct

theorem get?_sorted {name : String} {x : α} (mem : (name, x) ∈ entries) :
    Dictionary.get? (sorted entries) name = some x :=
  Dictionary.get?_of_mem (nodup_keys_sorted distinct) ((List.perm_insertionSort _ _).mem_iff.2 mem)

end

/-- What is written of a dictionary is read as its entries, sorted by name. -/
theorem toPlainEntries_sorted {entries : Dictionary String Plain} (distinct : entries.keys.Nodup) :
    toPlainEntries [] ((sorted entries).map fun e => (.scalar (.text e.1), ofPlain e.2)) =
      (sorted entries).map fun e => (e.1, (ofPlain e.2).toPlain) := by
  have read := toPlainEntries_texts [] ((sorted entries).map fun e => (e.1, ofPlain e.2))
  rw [List.map_map, List.map_map] at read
  refine read.trans (Dictionary.putAll_of_nodup [] _ ?_)
  have same_keys : Dictionary.keys ((sorted entries).map fun e => (e.1, (ofPlain e.2).toPlain)) =
      Dictionary.keys (sorted entries) := by
    rw [Dictionary.keys, List.map_map]
    rfl
  exact same_keys ▸ nodup_keys_sorted distinct

theorem toPlain_ofPlain_single {v : Plain} (single : IsSingle v) : (ofPlain v).toPlain = v := by
  cases v with
  | dict entries => exact absurd single id
  | _ => simp [ofPlain, toPlain]

end Document

namespace Settings

variable (c : Settings)

/-- The fields of a section, by name. -/
def fields (g : Section) : Dictionary String Plain :=
  (Field.inGroup g).map fun f => (f.name, f.get c)

/-- The sections, by name. -/
def sections : Dictionary String Plain := Section.all.map fun g => (g.name, g.get c)

/-- What saved settings say. -/
def savedLayer : Layer :=
  Document.sorted (Section.all.map fun g => (g.name, Document.sorted (c.fields g)))

theorem isSingle_get (f : Field) : Document.IsSingle (f.get c) := by
  cases f with
  | logFile =>
    rw [Field.get]
    cases c.logging.logFile <;> exact trivial
  | _ => exact trivial

theorem nodup_keys_fields (g : Section) : (c.fields g).keys.Nodup := by
  have names : ((Field.inGroup g).map Field.name).Nodup := by cases g <;> decide
  rw [fields, Dictionary.keys, List.map_map]
  exact names

theorem value?_savedLayer (f : Field) : c.savedLayer.value? f = some (f.get c) := by
  have sections_differ : (Dictionary.keys (Section.all.map fun g =>
      (g.name, Document.sorted (c.fields g)))).Nodup := by
    have names : (Section.all.map Section.name).Nodup := by decide
    rw [Dictionary.keys, List.map_map]
    exact names
  have section_listed : (f.group.name, Document.sorted (c.fields f.group)) ∈
      Section.all.map fun g => (g.name, Document.sorted (c.fields g)) :=
    List.mem_map.2 ⟨f.group, by cases f <;> decide, rfl⟩
  have listed : (f.name, f.get c) ∈ c.fields f.group :=
    List.mem_map.2 ⟨f, Field.mem_inGroup.2 rfl, rfl⟩
  rw [Layer.value?, savedLayer, Document.get?_sorted sections_differ section_listed,
    Option.bind_some, Document.get?_sorted (c.nodup_keys_fields f.group) listed]

theorem keys_sections : ∀ e ∈ c.sections, Document.isKeyName e.1 = true := by
  have names : ∀ g : Section, Document.isKeyName g.name = true := fun g => by cases g <;> decide
  intro e mem
  obtain ⟨g, -, rfl⟩ := List.mem_map.1 mem
  exact names g

theorem storable_sections : ∀ e ∈ c.sections, Document.IsStorable 0 e.2 := by
  have names : ∀ f : Field, Document.isKeyName f.name = true := fun f => by cases f <;> decide
  intro e mem
  obtain ⟨g, -, rfl⟩ := List.mem_map.1 mem
  refine .dict ?_ ?_ ?_
  · cases g <;> simp [Field.inGroup, Field.all, Field.group]
  · intro e mem
    obtain ⟨f, -, rfl⟩ := List.mem_map.1 mem
    exact names f
  · intro e mem
    obtain ⟨f, -, rfl⟩ := List.mem_map.1 mem
    exact .single (c.isSingle_get f) (by decide)

/-- A section is read as its fields, sorted by name. -/
theorem toPlain_ofPlain_section (g : Section) :
    (Document.ofPlain (g.get c)).toPlain = .dict (Document.sorted (c.fields g)) := by
  have singles : ∀ e ∈ Document.sorted (c.fields g), (Document.ofPlain e.2).toPlain = e.2 := by
    intro e mem
    obtain ⟨f, -, rfl⟩ := List.mem_map.1 (Document.mem_sorted.1 mem)
    exact Document.toPlain_ofPlain_single (c.isSingle_get f)
  have same : (Document.sorted (c.fields g)).map (fun e => (e.1, (Document.ofPlain e.2).toPlain)) =
      Document.sorted (c.fields g) :=
    (List.map_congr_left fun e mem => by rw [singles e mem]; rfl).trans (List.map_id _)
  rw [Section.get, Document.ofPlain_dict, Document.toPlain]
  exact congrArg Plain.dict ((Document.toPlainEntries_sorted (c.nodup_keys_fields g)).trans same)

/-- **Saved settings are read as what their fields read.** -/
theorem toPlainEntries_sections :
    Document.toPlainEntries []
        ((Document.sorted c.sections).map fun e => (.scalar (.text e.1), Document.ofPlain e.2)) =
      c.savedLayer.toPlain := by
  have distinct : c.sections.keys.Nodup := by
    have names : (Section.all.map Section.name).Nodup := by decide
    rw [sections, Dictionary.keys, List.map_map]
    exact names
  rw [Document.toPlainEntries_sorted distinct, ← Document.sorted_map, Layer.toPlain, savedLayer,
    ← Document.sorted_map, sections, List.map_map, List.map_map]
  refine congrArg Document.sorted (List.map_congr_left fun g _ => ?_)
  exact congrArg (g.name, ·) (c.toPlain_ofPlain_section g)

/-- What saved settings say are the settings. -/
theorem ofSources_savedLayer {c : Settings} (valid : c.IsValid) :
    ofSources (.sections c.savedLayer.toPlain true) [] [] = .ok c := by
  have no_value : Layer.IsSimple [] := ⟨List.nodup_nil, fun e mem => absurd mem List.not_mem_nil⟩
  have made := @isChosen_ofSources c.savedLayer [] [] no_value fun s none => by cases none
  have chosen_eq : ∀ f, chosen c.savedLayer [] [] f = some (f.get c) := by
    intro f
    have nothing_else : chosen c.savedLayer [] [] f = c.savedLayer.value? f := by cases f <;> rfl
    rw [nothing_else, value?_savedLayer]
  refine (made.ok_iff c).2 ⟨List.filter_eq_nil_iff.2 fun f _ => ?_, fun f => ?_⟩
  · simp [misfit, chosen_eq, (Field.takes_iff (Field.assign_get valid f)).1]
  · rw [reading, chosen_eq, Option.bind_some, (Field.takes_iff (Field.assign_get valid f)).2]
    rfl

end Settings

/-! ## Saving and loading -/

namespace Session

/-- **What is saved reads back** as a document with the values of all fields. -/
theorem ofText_settingsText (c : Settings) : ∃ entries,
    Document.ofText (settingsText c) = .ok (.mapping entries) ∧
      Document.toPlainEntries [] entries = c.savedLayer.toPlain ∧
        (Document.mapping entries).hasTextKeys = true := by
  have some_section : c.sections ≠ [] := List.cons_ne_nil _ _
  have read := Document.ofText_write some_section c.keys_sections c.storable_sections
  rw [Document.ofPlain_dict] at read
  refine ⟨_, read, c.toPlainEntries_sections, ?_⟩
  simp [Document.hasTextKeys, Document.text?]

/-- The text of settings is read from a file as it was written. -/
theorem universalBreaks_settingsText (c : Settings) :
    String.ofList (Files.universalBreaks (settingsText c).toList) = settingsText c := by
  have some_section : c.sections ≠ [] := List.cons_ne_nil _ _
  have tidy := Document.isTidy_write some_section c.keys_sections c.storable_sections
  have no_return : '\r' ∉ (settingsText c).toList := fun mem => absurd (tidy _ mem) (by decide)
  rw [Files.universalBreaks_eq no_return, String.ofList_toList]

variable {s t : Session} {c : Settings} {path text : String}

theorem run_saveSettings (s : Session) (c : Settings) (path : String) :
    (saveSettings c path).run.run s =
      match s.files.makeParents (.ofText path) with
      | .error e => (.error e, s)
      | .ok made =>
        match made.write (.ofText path) (settingsText c) with
        | .error e => (.error e, { s with files := made })
        | .ok files => (.ok (settingsText c), { s with files }) := by
  simp only [saveSettings, run_bind, run_get, run_lift]
  cases s.files.makeParents (.ofText path) with
  | error e => rfl
  | ok made =>
    simp only [run_set]
    cases made.write (.ofText path) (settingsText c) <;> rfl

/-- Saving writes a file, and changes nothing else of a session. -/
theorem run_saveSettings_eq_ok : (saveSettings c path).run.run s = (.ok text, t) ↔
    text = settingsText c ∧ ∃ made files, s.files.makeParents (.ofText path) = .ok made ∧
      made.write (.ofText path) (settingsText c) = .ok files ∧ t = { s with files } := by
  rw [run_saveSettings]
  constructor
  · intro saved
    split at saved
    · cases saved
    · rename_i made parents
      split at saved
      · cases saved
      · rename_i files written
        cases saved
        exact ⟨rfl, made, files, parents, written, rfl⟩
  · rintro ⟨rfl, made, files, parents, written, rfl⟩
    simp only [parents, written]

/-- **Settings are saved exactly if the file can be written.** -/
theorem saved_iff (s : Session) (c : Settings) (path : String) :
    (∃ text t, (saveSettings c path).run.run s = (.ok text, t)) ↔
      s.files.CanHold (.ofText path) := by
  rw [← Files.written_iff s.files (.ofText path) (settingsText c)]
  constructor
  · rintro ⟨text, t, saved⟩
    obtain ⟨-, made, files, parents, written, -⟩ := run_saveSettings_eq_ok.1 saved
    exact ⟨made, files, parents, written⟩
  · rintro ⟨made, files, parents, written⟩
    exact ⟨_, _, run_saveSettings_eq_ok.2 ⟨rfl, made, files, parents, written, rfl⟩⟩

/-- The file of saved settings holds what their fields read. -/
theorem loadDocument_saved (saved : (saveSettings c path).run.run s = (.ok text, t)) :
    ((loadDocument path).run.run t).1 = .ok (.sections c.savedLayer.toPlain true) := by
  have named : path ≠ "" := by
    rintro rfl
    have here : s.files.isDirectory (s.files.goal (.ofText "")) = true :=
      s.files.isDirectory_start (.ofText "")
    have no_directory := ((saved_iff s c "").1 ⟨text, t, saved⟩).2.1
    rw [here] at no_directory
    cases no_directory
  obtain ⟨-, made, files, parents, written, rfl⟩ := run_saveSettings_eq_ok.1 saved
  obtain ⟨there, read⟩ := Files.read_of_written parents written
  rw [universalBreaks_settingsText] at read
  obtain ⟨entries, document, plain, keys⟩ := ofText_settingsText c
  rw [loadDocument, if_neg named, run_bind, run_get]
  simp only [there, Bool.not_true, Bool.false_eq_true, if_false]
  simp only [run_bind, run_lift, read, document, run_pure, plain, keys]

/-- **Saved settings load back.**  Settings that changes lead to from the defaults are saved to
every file that can be written, and to no other; loading that file, with nothing from the
environment and nothing given besides, gives the same settings again. -/
theorem loadSettings_saved (reached : c.Reached) (s : Session) (path : String) :
    ((∃ text t, (saveSettings c path).run.run s = (.ok text, t)) ↔
        s.files.CanHold (.ofText path)) ∧
      ∀ text t, (saveSettings c path).run.run s = (.ok text, t) →
        (loadSettings path [] []).run.run t = (.ok c, t) := by
  refine ⟨saved_iff s c path, fun text t saved => ?_⟩
  have loaded : (loadDocument path).run.run t = (.ok (.sections c.savedLayer.toPlain true), t) :=
    Prod.ext (loadDocument_saved saved) (state_loadDocument path t)
  rw [loadSettings, run_bind, loaded]
  dsimp only
  rw [run_lift, Settings.ofSources_savedLayer reached.isValid]

/-- A form of log lines with quotes, a tab, line breaks, a colon and blanks at its ends. -/
def awkwardForm : String := " 'level': %(levelname)s # \"é\"\n\n\t%(message)s: "

/-- The settings after an update, and a call of the logging setup that fails at its last value.  The log
file is given from the root. -/
def awkwardSettings : Settings where
  logging := {
    level := .debug, fileLogging := true, logFile := some (.ofText "/logs/run.log")
    format := awkwardForm }
  contrasts := { base := 3 }

/-- A session with a file in its working directory. -/
def notesSession : Session where
  files := { texts := [(["tmp", "work", "notes.txt"], "")] }

/-- A new directory can be made for saved settings, but not where a file stands. -/
theorem loadSettings_saved_awkwardForm :
    awkwardSettings.Reached ∧
    (∃ text t, (saveSettings awkwardSettings "saved/settings.yaml").run.run notesSession =
        (.ok text, t) ∧
      (loadSettings "saved/settings.yaml" [] []).run.run t = (.ok awkwardSettings, t)) ∧
    ¬∃ text t, (saveSettings awkwardSettings "notes.txt/settings.yaml").run.run notesSession =
      (.ok text, t) := by
  have reached : awkwardSettings.Reached :=
    .setupLogging (s := { settings := ((({} : Settings).update
        [("logging.format_string", .text awkwardForm), ("contrasts.base", .text "3")]).1) })
      (.update .default _) (.text "debug") .null (.text "/logs//run.log") (.int 0)
  obtain ⟨saved, loads⟩ := loadSettings_saved reached notesSession "saved/settings.yaml"
  obtain ⟨text, t, here⟩ := saved.2 (by decide)
  refine ⟨reached, ⟨text, t, here, loads text t here⟩, fun blocked => ?_⟩
  have can_hold := (loadSettings_saved reached notesSession "notes.txt/settings.yaml").1.1 blocked
  exact absurd can_hold (by decide)

end Session

end ModelFormula
