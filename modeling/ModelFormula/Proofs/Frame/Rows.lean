import ModelFormula.Proofs.Evaluation
import ModelFormula.Proofs.Frame.Build
import ModelFormula.Proofs.Levels

/-!
# Frames of some rows

The frame of some rows of a table has what the frame of the whole table has in these rows.  Only the
levels of a factor look across rows, and of these only the ones that occur are left.

* `Column.TextsOnly`, `Table.TextsOnly` — columns of texts or objects hold texts and missing values.
* `Evaluator.Rowwise` — an evaluator that does not look across rows.
* `FrameColumn.select`, `ModelFrame.select` — a column and a frame in some rows.
* `FrameColumn.keep_select`, `Mask.complete_select` — masks and selections of rows.
* `ModelFrame.Tidy` — what a frame satisfies whose unused levels are dropped.
* `ModelFrame.resolve_select`, `ModelFrame.assemble_select`, `ModelFrame.ofTerms_select` — the steps
  of building a frame of some rows; `ModelFrame.build_select` — the frame of some rows, or the
  failure.
-/

set_option autoImplicit false

namespace ModelFormula

/-! ## Tables of texts -/

/-- A column of texts or objects holds only texts and missing values. -/
def Column.TextsOnly : Column → Prop
  | .texts _ cells => Factor.Texts cells
  | .objects values => Factor.Texts (values.map cellOf) ∧ ∀ v ∈ values, v.hashable = true
  | _ => True

/-- All columns of texts or objects hold only texts and missing values. -/
def Table.TextsOnly (t : Table) : Prop := ∀ c ∈ t.columns, c.2.TextsOnly

instance (c : Column) : Decidable c.TextsOnly :=
  match c with
  | .texts _ cells => inferInstanceAs (Decidable (Factor.Texts cells))
  | .objects values =>
    inferInstanceAs (Decidable (Factor.Texts (values.map Column.cellOf) ∧ ∀ v ∈ values, _))
  | .doubles _ => isTrue trivial
  | .ints _ => isTrue trivial
  | .truths _ => isTrue trivial
  | .factor _ => isTrue trivial
  | .other _ _ => isTrue trivial

instance (t : Table) : Decidable t.TextsOnly :=
  inferInstanceAs (Decidable (∀ c ∈ t.columns, c.2.TextsOnly))

theorem Table.TextsOnly.of_column {t : Table} (h : t.TextsOnly) {name : Plain} {c : Column}
    (found : t.column name = .ok c) : c.TextsOnly := by
  unfold Table.column at found
  split at found
  · split at found
    · cases found
    · rename_i d only
      cases found
      obtain ⟨label, hc⟩ := Table.mem_of_columnsOf (only ▸ List.mem_singleton.2 rfl)
      exact h (label, c) hc
    · cases found
  · cases found

/-! ## Columns -/

section Columns

variable {positions : List Nat}

theorem Factor.keep_select {mask : Mask} {f : Factor} (size : mask.length = f.codes.length)
    (within : Within f.codes.length positions) :
    (f.select positions).keep (ModelFormula.select positions mask) =
      (f.keep mask).select (mask.renumber positions) := by
  ext1
  · rfl
  · exact Mask.keep_select size within
  · rfl
  · rfl

namespace FrameColumn

/-- The column in the rows at some positions. -/
def select (positions : List Nat) : FrameColumn → FrameColumn
  | .numeric values => .numeric (ModelFormula.select positions values)
  | .factor f => .factor (f.select positions)

theorem missing_select (positions : List Nat) (c : FrameColumn) :
    (c.select positions).missing = ModelFormula.select positions c.missing := by
  cases c with
  | numeric values => exact (select_map Float.isNaN positions values).symm
  | factor f => exact (select_map Option.isNone positions f.codes).symm

theorem missing_dropUnused (c : FrameColumn) : c.dropUnused.missing = c.missing := by
  cases c with
  | numeric values => rfl
  | factor f =>
    show f.dropUnused.codes.map Option.isNone = f.codes.map Option.isNone
    rw [← Factor.values_isNone, ← Factor.values_isNone, Factor.values_dropUnused]

/-- Keeping rows of a selection is selecting among the kept rows. -/
theorem keep_select {mask : Mask} {c : FrameColumn} (size : mask.length = c.missing.length)
    (within : Within c.missing.length positions) :
    (c.select positions).keep (ModelFormula.select positions mask) =
      (c.keep mask).select (mask.renumber positions) := by
  cases c with
  | numeric values =>
    simp only [missing, List.length_map] at size within
    exact congrArg numeric (Mask.keep_select size within)
  | factor f =>
    simp only [missing, List.length_map] at size within
    exact congrArg factor (Factor.keep_select size within)

theorem dropUnused_select_dropUnused (positions : List Nat) (c : FrameColumn) :
    (c.dropUnused.select positions).dropUnused = (c.select positions).dropUnused := by
  cases c with
  | numeric values => rfl
  | factor f => exact congrArg factor (Factor.dropUnused_select_dropUnused positions f)

theorem dropUnused_keep_dropUnused (mask : Mask) (c : FrameColumn) :
    (c.dropUnused.keep mask).dropUnused = (c.keep mask).dropUnused := by
  cases c with
  | numeric values => rfl
  | factor f =>
    show factor (f.dropUnused.keep mask).dropUnused = factor (f.keep mask).dropUnused
    rw [Factor.keep_eq_select, Factor.keep_eq_select, Factor.dropUnused_select_dropUnused]

theorem dropUnused_dropUnused (c : FrameColumn) : c.dropUnused.dropUnused = c.dropUnused := by
  cases c with
  | numeric values => rfl
  | factor f => exact congrArg factor f.dropUnused_dropUnused

/-- If all rows are selected, no further level is dropped. -/
theorem select_dropUnused_of_perm {c : FrameColumn} {rows : List Nat}
    (h : rows.Perm (List.range c.missing.length)) :
    (c.select rows).dropUnused = c.dropUnused.select rows := by
  cases c with
  | numeric values => rfl
  | factor f =>
    simp only [missing, List.length_map] at h
    exact congrArg factor (Factor.select_dropUnused_of_perm h)

theorem select_range (c : FrameColumn) : c.select (List.range c.missing.length) = c := by
  cases c with
  | numeric values =>
    simp only [missing, List.length_map]
    exact congrArg numeric (ModelFormula.select_range values)
  | factor f =>
    simp only [missing, List.length_map]
    refine congrArg factor (Factor.ext rfl ?_ rfl rfl)
    exact ModelFormula.select_range f.codes

/-- A column of a table becomes the same column of a frame before and after rows are selected, but for
levels that do not occur. -/
theorem ofColumn_select {textsAsFactors : Bool} {c : Column}
    (h : textsAsFactors = true → c.TextsOnly) (name : String) (positions : List Nat) :
    dropUnused <$> ofColumn textsAsFactors name (c.select positions) =
      (fun d => (d.select positions).dropUnused) <$> ofColumn textsAsFactors name c := by
  have numeric_part : ∀ c : Column,
      dropUnused <$> ((c.select positions).numbers name).map numeric =
        (fun d => (d.select positions).dropUnused) <$> (c.numbers name).map numeric := by
    intro c
    rw [Column.numbers_select]
    cases c.numbers name <;> rfl
  cases c with
  | doubles values => exact numeric_part (.doubles values)
  | ints cells => exact numeric_part (.ints cells)
  | truths cells => exact numeric_part (.truths cells)
  | factor f => rfl
  | other storage cells => rfl
  | texts storage cells =>
    cases textsAsFactors with
    | false => rfl
    | true =>
      have texts : Factor.Texts cells := h rfl
      exact congrArg (Except.ok ∘ factor) (Factor.dropUnused_ofMixed_select texts positions)
  | objects values =>
    cases textsAsFactors with
    | false => rfl
    | true =>
      obtain ⟨texts, hashable⟩ := h rfl
      have all : values.all Plain.hashable = true := List.all_eq_true.2 hashable
      have some_of_all : (ModelFormula.select positions values).all Plain.hashable = true :=
        List.all_eq_true.2 fun v hv => hashable v (mem_of_mem_select hv)
      have selected := Factor.dropUnused_ofMixed_select texts positions
      rw [select_map] at selected
      simp only [ofColumn, Column.select, Bool.not_true, Bool.false_eq_true, if_false, all,
        some_of_all, if_true]
      exact congrArg (Except.ok ∘ factor) selected

end FrameColumn

/-! ## Masks -/

/-- The complete cases among some rows. -/
theorem Mask.complete_select {n : Nat} {missing : List (List Bool)}
    (h : ∀ marks ∈ missing, marks.length = n) (within : Within n positions) :
    complete positions.length (missing.map (select positions)) =
      select positions (complete n missing) := by
  induction missing with
  | nil => exact (select_replicate within true).symm
  | cons marks missing ih =>
    have rest : ∀ others ∈ missing, others.length = n := fun others ho =>
      h others (List.mem_cons_of_mem _ ho)
    have size : marks.length = (complete n missing).length := by
      rw [length_complete rest]
      exact h marks List.mem_cons_self
    have step : complete n (marks :: missing) =
        List.zipWith (fun mark kept => !mark && kept) marks (complete n missing) := rfl
    rw [step, select_zipWith _ positions size, ← ih rest]
    rfl

theorem MissingPolicy.mask_select (policy : MissingPolicy) {n : Nat} {missing : List (List Bool)}
    (h : ∀ marks ∈ missing, marks.length = n) (within : Within n positions) :
    policy.mask positions.length (missing.map (select positions)) =
      select positions (policy.mask n missing) := by
  cases policy with
  | omitIncomplete => exact Mask.complete_select h within
  | keepAll => exact (select_replicate within true).symm
  | dropAll => exact (select_replicate within false).symm

end Columns

/-! ## Evaluators -/

/-- The evaluator does not look across rows: its columns have one item for each row, and on some rows
of a table it gives what it gives on all of them, at these. -/
structure Evaluator.Rowwise (evaluator : Evaluator) : Prop where
  length : ∀ (node : Node) (t : Table) (c : Column), node.wellFormed = true →
    (evaluator node t).outcome = .ok c → c.length = t.rows
  select : ∀ (node : Node) (t : Table) (positions : List Nat), node.wellFormed = true →
    Within t.rows positions → (evaluator node (t.select positions)).outcome =
      Column.select positions <$> (evaluator node t).outcome

theorem Evaluator.rowwise_ofRegistry {registry : Registry} (h : registry.Rowwise) :
    (ofRegistry registry).Rowwise where
  length := by
    intro node t c well_formed evaluated
    have evaluated : (Column.doubles <$> evaluateColumn registry node (.table t)).outcome = .ok c :=
      evaluated
    rw [Journal.outcome_map] at evaluated
    obtain ⟨xs, numbers, rfl⟩ := map_eq_ok.1 evaluated
    exact length_of_evaluateColumn h well_formed numbers
  select := by
    intro node t positions well_formed within
    show (Column.doubles <$> evaluateColumn registry node _).outcome =
      _ <$> (Column.doubles <$> evaluateColumn registry node _).outcome
    rw [Journal.outcome_map, Journal.outcome_map, evaluateColumn_select h well_formed within]
    cases (evaluateColumn registry node (.table t)).outcome <;> rfl

theorem ModelFrame.rowwise_default : ({} : ModelFrame.Options).evaluator.Rowwise :=
  Evaluator.rowwise_ofRegistry Registry.rowwise_standard

/-! ## Frames -/

namespace ModelFrame

variable {options : Options} {t : Table} {positions : List Nat}

/-- The frame in the rows of its table at some positions, without the levels that none of them
has. -/
def select (positions : List Nat) (frame : ModelFrame) : ModelFrame where
  terms := frame.terms
  columns := frame.columns.map fun c =>
    (c.1, (c.2.select (frame.retained.renumber positions)).dropUnused)
  index := ModelFormula.select (frame.retained.renumber positions) frame.index
  retained := ModelFormula.select positions frame.retained

/-- Whether texts become factors: those of a column do if that is asked for, and what an expression
gives must be numeric. -/
def textsOf (options : Options) : Node → Bool
  | .symbol _ => options.settings.textsAsFactors
  | _ => false

/-- A check that all columns pass does nothing. -/
theorem outcome_checked {evaluated : Journal Column} {n : Nat}
    {f : Column → Except Failure FrameColumn} {refuse : Column → Journal FrameColumn}
    (h : ∀ c, evaluated.outcome = .ok c → c.length = n) :
    (do let c ← evaluated; if c.length = n then (f c : Journal FrameColumn) else refuse c).outcome =
      evaluated.outcome >>= f := by
  rw [Journal.outcome_bind]
  cases done : evaluated.outcome with
  | error e => rfl
  | ok c =>
    show Journal.outcome (if _ then _ else _) = f c
    rw [if_pos (h c done)]
    rfl

/-- The column of an evaluation term is made of what it stands for. -/
theorem outcome_resolve (row_wise : options.evaluator.Rowwise) {node : Node}
    (h : node.wellFormed = true) : (resolve options t node).outcome =
      sourceColumn options t node >>= FrameColumn.ofColumn (textsOf options node) node.text := by
  cases node with
  | symbol name => exact Journal.outcome_bind _ _
  | _ => exact outcome_checked fun c evaluated => row_wise.length _ t c h evaluated

theorem sourceColumn_select (row_wise : options.evaluator.Rowwise) (within : Within t.rows positions)
    {node : Node} (h : node.wellFormed = true) :
    sourceColumn options (t.select positions) node =
      Column.select positions <$> sourceColumn options t node := by
  cases node with
  | symbol name => exact t.column_select positions name
  | _ => exact row_wise.select _ t positions h within

/-- The column of an evaluation term in some rows, but for levels that do not occur. -/
theorem resolve_select (row_wise : options.evaluator.Rowwise) (texts : t.TextsOnly)
    (within : Within t.rows positions) {node : Node} (h : node.wellFormed = true) :
    FrameColumn.dropUnused <$> (resolve options (t.select positions) node).outcome =
      (fun c => (c.select positions).dropUnused) <$> (resolve options t node).outcome := by
  rw [outcome_resolve row_wise h, outcome_resolve row_wise h, sourceColumn_select row_wise within h]
  cases source : sourceColumn options t node with
  | error e => rfl
  | ok c =>
    refine FrameColumn.ofColumn_select (fun asked => ?_) node.text positions
    cases node with
    | symbol name => exact texts.of_column source
    | _ => cases asked

/-- The columns of evaluation terms in some rows, but for levels that do not occur; the first failure
is the same. -/
theorem resolveAll_select (row_wise : options.evaluator.Rowwise) (texts : t.TextsOnly)
    (within : Within t.rows positions) {nodes : List Node}
    (h : ∀ node ∈ nodes, node.wellFormed = true) :
    List.map (fun c => (c.1, c.2.dropUnused)) <$>
        (resolveAll options (t.select positions) nodes).outcome =
      List.map (fun c => (c.1, (c.2.select positions).dropUnused)) <$>
        (resolveAll options t nodes).outcome := by
  induction nodes with
  | nil => rfl
  | cons node nodes ih =>
    have head := resolve_select row_wise texts within (h node List.mem_cons_self)
    have tail := ih fun other ho => h other (List.mem_cons_of_mem _ ho)
    unfold resolveAll
    rw [Journal.outcome_bind, Journal.outcome_bind]
    cases whole : (resolve options t node).outcome with
    | error e =>
      rw [whole] at head
      rw [map_eq_error.1 head]
      rfl
    | ok c =>
      rw [whole] at head
      obtain ⟨part, resolved, same⟩ := map_eq_ok.1 head
      rw [resolved]
      show _ <$> (resolveAll options _ nodes >>= _ : Journal _).outcome =
        _ <$> (resolveAll options t nodes >>= _ : Journal _).outcome
      rw [Journal.outcome_bind, Journal.outcome_bind]
      cases rest : (resolveAll options t nodes).outcome with
      | error e =>
        rw [rest] at tail
        rw [map_eq_error.1 tail]
        rfl
      | ok columns =>
        rw [rest] at tail
        obtain ⟨parts, resolved, others⟩ := map_eq_ok.1 tail
        rw [resolved]
        show Except.ok ((node.text, part.dropUnused) :: parts.map _) =
          .ok ((node.text, (c.select positions).dropUnused) :: columns.map _)
        rw [same, others]

/-- Of the columns of some rows only what is left without unused levels matters to the frame. -/
theorem assemble_select (drops : options.settings.dropUnusedLevels = true) {terms : TermsTable}
    {index : List Plain} {columns parts : Dictionary String FrameColumn}
    (sizes : ∀ c ∈ columns, c.2.missing.length = index.length)
    (within : Within index.length positions)
    (same : parts.map (fun c => (c.1, c.2.dropUnused)) =
      columns.map fun c => (c.1, (c.2.select positions).dropUnused)) :
    assemble options terms (ModelFormula.select positions index) parts =
      (assemble options terms index columns).select positions := by
  have marks_size : ∀ marks ∈ columns.map (fun c => c.2.missing), marks.length = index.length := by
    intro marks hm
    obtain ⟨c, hc, rfl⟩ := List.mem_map.1 hm
    exact sizes c hc
  have marks : parts.map (fun c => c.2.missing) =
      (columns.map fun c => c.2.missing).map (ModelFormula.select positions) := by
    have pruned := congrArg (List.map fun c : String × FrameColumn => c.2.missing) same
    simpa only [List.map_map, Function.comp_def, FrameColumn.missing_dropUnused,
      FrameColumn.missing_select] using pruned
  have mask : options.missing.mask (ModelFormula.select positions index).length
      (parts.map fun c => c.2.missing) = ModelFormula.select positions
        (options.missing.mask index.length (columns.map fun c => c.2.missing)) := by
    rw [marks, length_select within]
    exact options.missing.mask_select marks_size within
  have mask_size := options.missing.length_mask marks_size
  unfold assemble select
  simp only [drops, if_true, mask, ModelFrame.mk.injEq, true_and, and_true]
  generalize options.missing.mask index.length (columns.map fun c => c.2.missing) = kept at mask_size
  constructor
  · have finished := congrArg (List.map fun c : String × FrameColumn =>
      (c.1, (c.2.keep (ModelFormula.select positions kept)).dropUnused)) same
    simp only [List.map_map, Function.comp_def, FrameColumn.dropUnused_keep_dropUnused] at finished
    rw [finished, List.map_map]
    refine List.map_congr_left fun c hc => ?_
    have size : kept.length = c.2.missing.length := mask_size.trans (sizes c hc).symm
    rw [FrameColumn.keep_select size ((sizes c hc).symm ▸ within)]
    exact congrArg (Prod.mk c.1) (FrameColumn.dropUnused_select_dropUnused _ _).symm
  · exact Mask.keep_select mask_size within

theorem validate_select (positions : List Nat) (t : Table) (name : String) :
    (Source.table (t.select positions)).validate name =
      Table.select positions <$> (Source.table t).validate name := by
  have repeated : (t.select positions).repeatedLabels = t.repeatedLabels := by
    unfold Table.repeatedLabels
    rw [Table.labels_select]
  unfold Source.validate
  simp only [repeated]
  split <;> rfl

theorem outcome_ofTerms (terms : TermsTable) (source : Source) :
    (ofTerms options terms source).outcome = do
      let table ← source.validate "data"
      let columns ← (resolveAll options table terms.vocabulary).outcome
      return assemble options terms table.index (keyed columns) := by
  unfold ofTerms
  rw [Journal.outcome_bind]
  show (source.validate "data" >>= _) = _
  cases source.validate "data" with
  | error e => rfl
  | ok table =>
    show (resolveAll options table terms.vocabulary >>= _ : Journal _).outcome = _
    rw [Journal.outcome_bind]
    rfl

/-- **The frame of some rows of a table is its frame, in these rows.** -/
theorem ofTerms_select (row_wise : options.evaluator.Rowwise)
    (drops : options.settings.dropUnusedLevels = true) (texts : t.TextsOnly)
    (within : Within t.rows positions) {terms : TermsTable}
    (h : ∀ node ∈ terms.vocabulary, node.wellFormed = true) :
    (ofTerms options terms (.table (t.select positions))).outcome =
      select positions <$> (ofTerms options terms (.table t)).outcome := by
  have columns := resolveAll_select row_wise texts within h
  rw [outcome_ofTerms, outcome_ofTerms, validate_select]
  cases valid : (Source.table t).validate "data" with
  | error e => rfl
  | ok table =>
    cases validate_eq_ok valid
    show (resolveAll options (t.select positions) terms.vocabulary).outcome >>= _ =
      _ <$> ((resolveAll options t terms.vocabulary).outcome >>= _)
    cases resolved : (resolveAll options t terms.vocabulary).outcome with
    | error e =>
      rw [resolved] at columns
      rw [map_eq_error.1 columns]
      rfl
    | ok whole =>
      rw [resolved] at columns
      obtain ⟨part, found, same⟩ := map_eq_ok.1 columns
      rw [found]
      refine congrArg Except.ok (assemble_select drops (fun c hc => ?_) within ?_)
      · obtain ⟨node, -, -, origin, held⟩ := mem_keyed resolved hc
        exact held.length_missing
      · have putting : ∀ f : FrameColumn → FrameColumn, ∀ entries : List (String × FrameColumn),
            (keyed entries).map (fun c => (c.1, f c.2)) = keyed (entries.map fun c => (c.1, f c.2)) :=
          fun f entries => Dictionary.map_putAll f [] entries
        rw [putting, putting (fun c => (c.select positions).dropUnused), same]

/-- **The frame of a formula on some rows of a table is its frame on the table, in these rows**, or
building it fails for the same reason. -/
theorem build_select (row_wise : options.evaluator.Rowwise)
    (drops : options.settings.dropUnusedLevels = true) (texts : t.TextsOnly)
    (within : Within t.rows positions) (formula : Node) :
    (build options formula (.table (t.select positions))).outcome =
      select positions <$> (build options formula (.table t)).outcome := by
  show (TermsTable.ofFormula formula >>= fun terms => ofTerms options terms _ : Journal _).outcome =
    _ <$> (TermsTable.ofFormula formula >>= fun terms => ofTerms options terms _ : Journal _).outcome
  rw [Journal.outcome_bind, Journal.outcome_bind]
  cases built : (TermsTable.ofFormula formula).outcome with
  | error e => rfl
  | ok terms =>
    refine ofTerms_select row_wise drops texts within fun node hn => ?_
    obtain ⟨left, right, rfl, sides⟩ := TermsTable.ofFormula_eq_ok built
    exact TermsTable.wellFormed_of_build sides node hn

/-! ## Rows of a built frame -/

theorem length_retained_of_build {formula : Node} {frame : ModelFrame}
    (h : (build options formula (.table t)).outcome = .ok frame) :
    frame.retained.length = t.rows := by
  obtain ⟨left, right, terms, rfl, -, built⟩ := build_eq_ok h
  exact length_retained built

/-- What a frame satisfies whose unused levels are dropped: every column has an item in each kept row,
and only levels that occur. -/
structure Tidy (frame : ModelFrame) : Prop where
  rows : frame.rows = frame.retained.kept
  lengths : ∀ c ∈ frame.columns, c.2.missing.length = frame.rows
  pruned : ∀ c ∈ frame.columns, c.2.dropUnused = c.2

theorem tidy_of_build (drops : options.settings.dropUnusedLevels = true) {formula : Node}
    {source : Source} {frame : ModelFrame}
    (h : (build options formula source).outcome = .ok frame) : frame.Tidy := by
  obtain ⟨left, right, terms, rfl, -, built⟩ := build_eq_ok h
  obtain ⟨table, columns, rfl, resolved, frame_eq⟩ := ofTerms_eq_ok built
  have size : frame.retained.length = table.index.length := length_retained built
  have index : frame.index = frame.retained.keep table.index := by rw [frame_eq]; rfl
  have finish : ∀ c ∈ frame.columns, ∃ d : FrameColumn, d.missing.length = table.index.length ∧
      c.2 = (d.keep frame.retained).dropUnused := by
    intro c hc
    rw [frame_eq, columns_assemble] at hc
    obtain ⟨d, hd, rfl⟩ := List.mem_map.1 hc
    obtain ⟨node, -, -, origin, held⟩ := mem_keyed resolved hd
    refine ⟨d.2, held.length_missing, ?_⟩
    rw [frame_eq]
    exact if_pos drops
  constructor
  · rw [ModelFrame.rows, index]
    exact Mask.length_keep size
  · intro c hc
    obtain ⟨d, length, same⟩ := finish c hc
    rw [same, FrameColumn.missing_dropUnused, FrameColumn.length_missing, FrameColumn.cells_keep,
      ModelFrame.rows, index]
    exact Mask.length_keep_congr _ (by rw [← FrameColumn.length_missing, length])
  · intro c hc
    obtain ⟨d, -, same⟩ := finish c hc
    rw [same, FrameColumn.dropUnused_dropUnused]

end ModelFrame

end ModelFormula
