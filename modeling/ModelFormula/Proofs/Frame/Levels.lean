import Mathlib
import ModelFormula.Proofs.Frame.Complete
import ModelFormula.Proofs.Treatment

/-!
# Levels of a frame

The levels of a factor in a frame are those that occur in the rows that were kept.

* `Factor.Compact` — every row has a level and every level a row; `Factor.compact_dropUnused`.
* `Factor.Lists` — levels are texts, each once and in increasing order; `Factor.lists_dropUnused`.
* `Factor.Observes` — what a factor shows of the rows of a column that were kept.
* `ModelFrame.resolve_factor` — a factor comes from a column of the table.
* `ModelFrame.observes_of_build` — the factors of a frame are compact and show the kept rows of the
  table.
-/

set_option autoImplicit false

namespace ModelFormula

namespace Factor

variable {f : Factor} {mask : Mask}

/-! ## Compact factors -/

/-- Every row has a level, and every level a row. -/
structure Compact (f : Factor) : Prop where
  coded : ∀ c ∈ f.codes, ∃ k < f.size, c = some k
  hit : ∀ k < f.size, some k ∈ f.codes
  /-- Each column of a coding has a one. -/
  indicated : ∀ (base : Int) (name : String) (b : Block), f.coded base name = .ok b →
    ∀ column ∈ b.columns, 1.0 ∈ column
  pruned : f.dropUnused = f

theorem some_mem_codes_dropUnused {k : Nat} (hk : k < f.dropUnused.size) :
    some k ∈ f.dropUnused.codes := by
  refine (some_mem_codes_iff hk).2 ?_
  rw [values_dropUnused]
  exact mem_values_of_dropUnused (List.getElem_mem hk)

/-- The column of a level that occurs has a one. -/
theorem one_mem_of_coded {base : Int} {name : String} {b : Block}
    (h : f.coded base name = .ok b) (hit : ∀ k < f.size, some k ∈ f.codes) :
    ∀ column ∈ b.columns, 1.0 ∈ column := by
  obtain ⟨-, -, -, -, rfl⟩ := coded_eq_ok h
  intro column mem
  obtain ⟨k, hk, rfl⟩ := List.mem_map.1 mem
  have hk : k < f.size := List.mem_range.1 (List.mem_filter.1 hk).1
  exact List.mem_map.2 ⟨some k, hit k hk, if_pos rfl⟩

/-- **A factor without missing rows is compact** once the levels that do not occur are dropped. -/
theorem compact_dropUnused (complete : none ∉ f.dropUnused.codes) : f.dropUnused.Compact where
  coded := by
    intro c hc
    cases c with
    | none => exact absurd hc complete
    | some k => exact ⟨k, f.dropUnused.codes_lt k hc, rfl⟩
  hit := fun _ => some_mem_codes_dropUnused
  indicated := fun _ _ _ h => one_mem_of_coded h fun _ => some_mem_codes_dropUnused
  pruned := dropUnused_dropUnused f

/-! ## Levels of texts -/

/-- The levels are the texts among the cells, each once and in increasing order. -/
def Lists (levels : List Level) (cells : List (Option Level)) : Prop :=
  ∃ texts : List String, levels = texts.map Level.text ∧ texts.Pairwise (· < ·) ∧
    ∀ s, s ∈ texts ↔ some (Level.text s) ∈ cells

theorem exists_text {v : Level} (h : v.isText = true) : ∃ s, Level.text s = v := by
  cases v with
  | text s => exact ⟨s, rfl⟩
  | _ => cases h

/-- Sorted levels that are all texts are listed. -/
theorem lists_of_sorted {levels : List Level} {cells : List (Option Level)}
    (sorted : levels.Pairwise fun v w => v.le w = true) (nodup : levels.Nodup)
    (texts : ∀ v ∈ levels, v.isText = true) (mem : ∀ v, v ∈ levels ↔ some v ∈ cells) :
    Lists levels cells := by
  have range : levels ∈ Set.range (List.map Level.text) := by
    rw [Set.range_list_map]
    exact fun v hv => exists_text (texts v hv)
  obtain ⟨items, rfl⟩ := range
  have increasing : items.Pairwise (· ≤ ·) := by
    refine (List.pairwise_map.1 sorted).imp fun {s t} below => ?_
    rwa [← Level.text_le_text]
  have differ : items.Nodup := List.Nodup.of_map _ nodup
  refine ⟨items, rfl, (increasing.and differ).imp fun h => lt_of_le_of_ne h.1 h.2, fun s => ?_⟩
  rw [← mem, List.mem_map_of_injective fun _ _ same => by cases same; rfl]

/-- **The levels that are left of a column of texts are the texts of the kept rows**, increasing. -/
theorem lists_dropUnused {cells : List (Option Level)} (h : Texts cells) :
    Lists ((ofMixed cells).keep mask).dropUnused.levels (mask.keep cells) := by
  have values : ((ofMixed cells).keep mask).values = mask.keep cells := by
    rw [values_keep, values_ofMixed_of_texts h]
  have levels : ((ofMixed cells).keep mask).dropUnused.levels =
      (ofMixed cells).levels.filter fun v => decide (some v ∈ mask.keep cells) := by
    rw [levels_dropUnused, values]
    rfl
  have kept : ∀ {v : Level}, some v ∈ mask.keep cells → v ∈ (ofMixed cells).levels := fun hv =>
    (mem_levels_ofMixed h).2 ((mask.keep_sublist cells).subset hv)
  rw [levels]
  refine lists_of_sorted ((pairwise_listed _).filter _) ((nodup_levels _).filter _) ?_ ?_
  · intro v hv
    exact isText_of_mem h ((mem_levels_ofMixed h).1 (List.mem_filter.1 hv).1)
  · intro v
    rw [List.mem_filter, decide_eq_true_eq]
    exact and_iff_right_of_imp kept

/-! ## Rows that were kept -/

/-- A factor has levels of the values in the kept rows, and of texts exactly the distinct ones, in
increasing order. -/
def ObservesCells (mask : Mask) (f : Factor) (cells : List (Option Level)) : Prop :=
  f.values.map (Option.map Level.canon) = (mask.keep cells).map (Option.map Level.canon) ∧
    (Texts cells → Lists f.levels (mask.keep cells) ∧ f.values = mask.keep cells)

/-- What a factor shows of the rows of a column that were kept: of a factor those of its levels that
occur there, in their order; of texts the distinct ones, in increasing order; of objects levels of
their values. -/
def Observes (mask : Mask) (f : Factor) : Column → Prop
  | .factor g =>
    f.levels = g.levels.filter (fun v => decide (some v ∈ mask.keep g.values)) ∧
      f.values = mask.keep g.values
  | .texts _ cells => f.ObservesCells mask cells
  | .objects values => f.ObservesCells mask (values.map Column.cellOf)
  | _ => False

theorem observes_factor (mask : Mask) (g : Factor) :
    (g.keep mask).dropUnused.Observes mask (.factor g) := by
  refine ⟨?_, ?_⟩
  · rw [levels_dropUnused, values_keep]
    rfl
  · rw [values_dropUnused, values_keep]

theorem observes_cells (mask : Mask) (cells : List (Option Level)) :
    ((ofMixed cells).keep mask).dropUnused.ObservesCells mask cells := by
  refine ⟨?_, fun texts => ⟨lists_dropUnused texts, ?_⟩⟩
  · rw [values_dropUnused, values_keep, ← Mask.keep_map, values_ofMixed, Mask.keep_map]
  · rw [values_dropUnused, values_keep, values_ofMixed_of_texts texts]

/-- The factor that a column becomes shows its kept rows. -/
theorem observes_ofColumn {textsAsFactors : Bool} {name : String} {origin : Column} {g : Factor}
    (h : FrameColumn.ofColumn textsAsFactors name origin = .ok (.factor g)) (mask : Mask) :
    (g.keep mask).dropUnused.Observes mask origin := by
  cases origin with
  | factor f =>
    cases h
    exact observes_factor mask g
  | texts storage cells =>
    cases textsAsFactors with
    | false => cases h
    | true =>
      cases h
      exact observes_cells mask cells
  | objects values =>
    cases textsAsFactors with
    | false => cases h
    | true =>
      unfold FrameColumn.ofColumn at h
      simp only [Bool.not_true, Bool.false_eq_true, if_false] at h
      split at h
      · cases h
        exact observes_cells mask _
      · cases h
  | _ => cases h

end Factor

namespace ModelFrame

variable {options : Options} {terms : TermsTable} {table : Table} {frame : ModelFrame}

/-! ## Columns of evaluation terms -/

/-- A factor comes from a column of the table: what an expression gives is numeric. -/
theorem resolve_factor {registry : Registry} (evaluator : options.evaluator = .ofRegistry registry)
    {node : Node} {g : Factor} (h : (resolve options table node).outcome = .ok (.factor g)) :
    ∃ name origin, node = .symbol name ∧ table.column name = .ok origin ∧
      FrameColumn.ofColumn options.settings.textsAsFactors node.text origin = .ok (.factor g) := by
  cases node with
  | symbol name =>
    obtain ⟨origin, found, h⟩ := Journal.outcome_bind_eq_ok.1 h
    exact ⟨name, origin, rfl, found, h⟩
  | _ =>
    obtain ⟨values, evaluated, h⟩ := Journal.outcome_bind_eq_ok.1 h
    rw [evaluator] at evaluated
    have evaluated : (Column.doubles <$> evaluateColumn registry _ (.table table)).outcome =
      .ok values := evaluated
    rw [Journal.outcome_map] at evaluated
    obtain ⟨xs, -, rfl⟩ := map_eq_ok.1 evaluated
    split at h <;> cases h

/-- A factor of a frame is what is left of a factor. -/
theorem finished_factor (drops : options.settings.dropUnusedLevels = true) {mask : Mask}
    {c : FrameColumn} {f : Factor} (h : finished options mask c = .factor f) :
    ∃ g, c = .factor g ∧ (g.keep mask).dropUnused = f := by
  unfold finished at h
  rw [if_pos drops] at h
  cases c with
  | numeric values => cases h
  | factor g =>
    cases h
    exact ⟨g, rfl, rfl⟩

/-- **The levels of a factor in a frame are exactly those of the rows that were kept.**  The factor
comes from the column of its name, it shows the kept rows of that column, every level has a row, and
nothing is left to be dropped. -/
theorem observes_of_build {registry : Registry} {formula : Node} {source : Source}
    (h : (build options formula source).outcome = .ok frame)
    (drops : options.settings.dropUnusedLevels = true)
    (evaluator : options.evaluator = .ofRegistry registry)
    (omits : options.missing = .omitIncomplete) {node : Node}
    (hn : node ∈ frame.terms.vocabulary)
    (unique : ∀ other ∈ frame.terms.vocabulary, other.text = node.text → other = node)
    {f : Factor} (found : frame.column node = .ok (.factor f)) :
    ∃ name table origin, node = .symbol name ∧ source = .table table ∧
      table.column name = .ok origin ∧ f.Observes frame.retained origin ∧ f.Compact := by
  have complete : none ∉ f.codes := by
    intro missing
    exact complete_of_build omits h node _ found (List.mem_map.2 ⟨none, missing, rfl⟩)
  obtain ⟨left, right, terms, -, sides, built⟩ := build_eq_ok h
  obtain ⟨table, columns, rfl, -, frame_eq⟩ := ofTerms_eq_ok built
  have same : frame.terms = terms := by rw [frame_eq]; rfl
  rw [same] at hn unique
  obtain ⟨column, resolved, own⟩ :=
    column_resolved built (TermsTable.wellFormed_of_build sides) hn unique
  rw [own] at found
  obtain ⟨g, rfl, rfl⟩ := finished_factor drops (Except.ok.inj found)
  obtain ⟨name, origin, rfl, source_eq, made⟩ := resolve_factor evaluator resolved
  exact ⟨name, table, origin, rfl, rfl, source_eq, Factor.observes_ofColumn made _,
    Factor.compact_dropUnused complete⟩

/-- Visits at three sites: at the first site of the list nothing was measured, and the last visit
has no note. -/
def visits : Table where
  columns :=
    [(.text "y", .ints [some 1, some 2, some 3, some 4]),
      (.text "x", .doubles [0.5, 0.0 / 0.0, 2.0, 3.0]),
      (.text "site", .factor (.code [.text "north", .text "south", .text "east"] (by decide) false
        [some (.text "south"), some (.text "north"), some (.text "east"), some (.text "south")])),
      (.text "note", .texts .str
        [some (.text "late"), some (.text "late"), some (.text "late"), none])]
  index := [.text "i", .text "j", .text "k", .text "l"]
  length_eq := by decide

/-- The formula `y ~ x&site&note`. -/
def visitsFormula : Node :=
  .formula (some (.var "y")) (.app "&" [.var "x", .var "site", .var "note"])

theorem exists_factor_of_levels {node : Node} {levels : List Level}
    (h : frame.levels node = .ok levels) :
    ∃ f : Factor, frame.column node = .ok (.factor f) ∧ f.levels = levels := by
  obtain ⟨column, found, h⟩ := bind_eq_ok.1 h
  cases column with
  | numeric values => cases h
  | factor f =>
    cases h
    exact ⟨f, found, rfl⟩

/-- The site of the second visit is not a level, as the row is not complete. -/
theorem observes_of_build_visits : ∃ frame site note,
    (build {} visitsFormula (.table visits)).outcome = .ok frame ∧
    frame.column (.var "site") = .ok (.factor site) ∧
    frame.column (.var "note") = .ok (.factor note) ∧
    site.levels = [.text "south", .text "east"] ∧ site.Compact ∧
    note.levels = [.text "late"] ∧ note.Compact := by
  have shown : (fun frame : ModelFrame => (frame.terms.vocabulary, frame.levels (.var "site"),
      frame.levels (.var "note"))) <$> (build {} visitsFormula (.table visits)).outcome =
        .ok ([.var "y", .var "x", .var "site", .var "note"],
          .ok [.text "south", .text "east"], .ok [.text "late"]) := by
    decide +kernel
  obtain ⟨frame, built, shown⟩ := map_eq_ok.1 shown
  obtain ⟨vocabulary, shown⟩ := Prod.mk.inj shown
  obtain ⟨sites, notes⟩ := Prod.mk.inj shown
  obtain ⟨site, site_column, site_levels⟩ := exists_factor_of_levels sites
  obtain ⟨note, note_column, note_levels⟩ := exists_factor_of_levels notes
  obtain ⟨_, _, _, -, -, -, -, site_compact⟩ := observes_of_build built rfl rfl rfl
    (by rw [vocabulary]; decide) (by rw [vocabulary]; decide) site_column
  obtain ⟨_, _, _, -, -, -, -, note_compact⟩ := observes_of_build built rfl rfl rfl
    (by rw [vocabulary]; decide) (by rw [vocabulary]; decide) note_column
  exact ⟨frame, site, note, built, site_column, note_column, site_levels, site_compact,
    note_levels, note_compact⟩

end ModelFrame

end ModelFormula
