import ModelFormula.Proofs.Dictionary
import ModelFormula.Proofs.Frame.Cells
import ModelFormula.Proofs.Mask
import ModelFormula.Proofs.Terms

/-!
# Built frames

What building a frame does: the evaluation terms are resolved, stored by their texts and cut down to
the rows that the mask keeps.

* `ModelFrame.build_eq_ok`, `ModelFrame.ofTerms_eq_ok` — the steps of building.
* `ModelFrame.exists_last`, `ModelFrame.column_last` — under each text stands the last column that
  was stored there; `ModelFrame.column_resolved` — its own if no other has the text.
* `ModelFrame.mem_resolved`, `ModelFrame.mem_keyed` — every column stands for an evaluation term.
* `ModelFrame.Holds` — the column of an evaluation term holds, in the kept rows, what an evaluation
  term stands for; `ModelFrame.holds_last` — it holds what the last one of its text stands for.
* `ModelFrame.length_retained`, `ModelFrame.length_cells` — the mask has an entry for every row of
  the table, and every column a cell for every row that is kept.
-/

set_option autoImplicit false

namespace ModelFormula

theorem MissingPolicy.length_mask (policy : MissingPolicy) {n : Nat} {missing : List (List Bool)}
    (h : ∀ marks ∈ missing, marks.length = n) : (policy.mask n missing).length = n := by
  cases policy with
  | omitIncomplete => exact Mask.length_complete h
  | keepAll => exact List.length_replicate
  | dropAll => exact List.length_replicate

namespace ModelFrame

variable {options : Options} {terms : TermsTable} {source : Source} {frame : ModelFrame}

/-! ## Steps -/

theorem validate_eq_ok {name : String} {table : Table} (h : source.validate name = .ok table) :
    source = .table table := by
  unfold Source.validate at h
  split at h
  · cases h
  · split at h
    · cases h
      rfl
    · cases h

theorem ofTerms_eq_ok (h : (ofTerms options terms source).outcome = .ok frame) :
    ∃ table columns, source = .table table ∧
      (resolveAll options table terms.vocabulary).outcome = .ok columns ∧
      frame = assemble options terms table.index (keyed columns) := by
  obtain ⟨table, valid, h⟩ := Journal.outcome_bind_eq_ok.1 h
  obtain ⟨columns, resolved, h⟩ := Journal.outcome_bind_eq_ok.1 h
  obtain ⟨⟨⟩, -, h⟩ := Journal.outcome_bind_eq_ok.1 h
  cases h
  exact ⟨table, columns, validate_eq_ok valid, resolved, rfl⟩

theorem build_eq_ok {formula : Node} (h : (build options formula source).outcome = .ok frame) :
    ∃ left right terms, formula = .formula left right ∧ TermsTable.build left right = .ok terms ∧
      (ofTerms options terms source).outcome = .ok frame := by
  obtain ⟨terms, built, done⟩ := Journal.outcome_bind_eq_ok.1 h
  obtain ⟨left, right, rfl, sides⟩ := TermsTable.ofFormula_eq_ok built
  exact ⟨left, right, terms, rfl, sides, done⟩

/-! ## Columns -/

/-- What is done to a column once the rows are known. -/
def finished (options : Options) (mask : Mask) (c : FrameColumn) : FrameColumn :=
  if options.settings.dropUnusedLevels then (c.keep mask).dropUnused else c.keep mask

theorem cells_finished (mask : Mask) (c : FrameColumn) :
    (finished options mask c).cells = mask.keep c.cells := by
  unfold finished
  split
  · rw [FrameColumn.cells_dropUnused, FrameColumn.cells_keep]
  · rw [FrameColumn.cells_keep]

theorem columns_assemble (index : List Plain) (columns : Dictionary String FrameColumn) :
    (assemble options terms index columns).columns = columns.map fun c =>
      (c.1, finished options (assemble options terms index columns).retained c.2) := rfl

theorem column_eq_ok {node : Node} {column : FrameColumn} (h : frame.column node = .ok column) :
    frame.columns.get? node.text = some column := by
  obtain ⟨text, named, h⟩ := bind_eq_ok.1 h
  unfold Node.render at named
  split at named
  · cases named
    split at h
    · rename_i found
      cases h
      exact found
    · cases h
  · cases named

theorem column_of_get? {node : Node} {column : FrameColumn} (hn : node.wellFormed = true)
    (h : frame.columns.get? node.text = some column) : frame.column node = .ok column := by
  refine bind_eq_ok.2 ⟨node.text, Node.render_of_wellFormed hn, ?_⟩
  rw [h]
  rfl

theorem split_of_forall₂ {α β : Type} {R : α → β → Prop} {xs : List α} {before after : List β}
    {y : β} (h : List.Forall₂ R xs (before ++ y :: after)) : ∃ earlier x later,
      xs = earlier ++ x :: later ∧ R x y ∧ List.Forall₂ R later after := by
  induction before generalizing xs with
  | nil =>
    cases h with
    | @cons x _ later _ hx rest => exact ⟨[], x, later, rfl, hx, rest⟩
  | cons z before ih =>
    cases h with
    | @cons x _ xs _ _ rest =>
      obtain ⟨earlier, x', later, rfl, hx, rest⟩ := ih rest
      exact ⟨x :: earlier, x', later, rfl, hx, rest⟩

/-- The columns that were resolved for evaluation terms have the texts of these as their keys. -/
theorem keys_of_resolved {R : Node → FrameColumn → Prop} {nodes : List Node}
    {columns : Dictionary String FrameColumn}
    (h : List.Forall₂ (fun node c => c.1 = node.text ∧ R node c.2) nodes columns) :
    columns.keys = nodes.map Node.text := by
  induction h with
  | nil => rfl
  | cons entry _ ih =>
    exact congrArg₂ List.cons entry.1 ih

/-- Under each text stands the last column that was stored there. -/
theorem exists_last {R : Node → FrameColumn → Prop} {nodes : List Node}
    {columns : Dictionary String FrameColumn}
    (h : List.Forall₂ (fun node c => c.1 = node.text ∧ R node c.2) nodes columns) {node : Node}
    (hn : node ∈ nodes) : ∃ before last after column, nodes = before ++ last :: after ∧
      last.text = node.text ∧ (∀ later ∈ after, later.text ≠ node.text) ∧ R last column ∧
      (keyed columns).get? node.text = some column := by
  -- A later column of the same text would have replaced the one that is found.
  have key : node.text ∈ columns.keys := by
    rw [keys_of_resolved h]
    exact List.mem_map_of_mem hn
  obtain ⟨column, found⟩ := Dictionary.isSome_get?_putAll key
  obtain ⟨before, after, rfl, fresh⟩ := Dictionary.last_of_get? found
  obtain ⟨earlier, last, later, split, ⟨same, held⟩, rest⟩ := split_of_forall₂ h
  refine ⟨earlier, last, later, column, split, same.symm, fun other ho clash => ?_, held, found⟩
  rw [keys_of_resolved rest] at fresh
  exact fresh (clash ▸ List.mem_map_of_mem ho)

/-! ## Rows -/

section Rows

variable {table : Table} {columns : List (String × FrameColumn)}

/-- Every resolved column stands for an evaluation term, under its text. -/
theorem mem_resolved {nodes : List Node} (h : (resolveAll options table nodes).outcome = .ok columns)
    {c : String × FrameColumn} (hc : c ∈ columns) :
    ∃ node ∈ nodes, c.1 = node.text ∧ ∃ origin, Resolves options table node c.2 origin := by
  obtain ⟨before, after, rfl⟩ := List.append_of_mem hc
  obtain ⟨earlier, node, later, split, entry, -⟩ := split_of_forall₂ (resolveAll_eq_ok h)
  exact ⟨node, by rw [split]; simp, entry⟩

/-- All stored columns were resolved. -/
theorem mem_keyed (h : (resolveAll options table terms.vocabulary).outcome = .ok columns)
    {c : String × FrameColumn} (hc : c ∈ keyed columns) :
    ∃ node ∈ terms.vocabulary, c.1 = node.text ∧ ∃ origin,
      Resolves options table node c.2 origin := by
  rcases Dictionary.mem_of_mem_putAll hc with hc | hc
  · cases hc
  · exact mem_resolved h hc

/-- The keys are the texts of the evaluation terms. -/
theorem keys_of_resolveAll (h : (resolveAll options table terms.vocabulary).outcome = .ok columns) :
    Dictionary.keys columns = terms.vocabulary.map Node.text :=
  keys_of_resolved (R := fun node c => ∃ origin, Resolves options table node c origin)
    (resolveAll_eq_ok h)

theorem Resolves.length_cells {node : Node} {column : FrameColumn} {origin : Column}
    (h : Resolves options table node column origin) :
    column.cells.length = table.index.length := by
  rw [h.cells.length_eq, Column.length_cells, h.length, Table.rows]

theorem Resolves.length_missing {node : Node} {column : FrameColumn} {origin : Column}
    (h : Resolves options table node column origin) :
    column.missing.length = table.index.length := by
  rw [FrameColumn.length_missing, h.length_cells]

/-- The mask has an entry for every row of the table. -/
theorem length_retained (h : (ofTerms options terms (.table table)).outcome = .ok frame) :
    frame.retained.length = table.rows := by
  obtain ⟨table', columns, same, resolved, rfl⟩ := ofTerms_eq_ok h
  cases same
  refine MissingPolicy.length_mask _ fun marks hm => ?_
  obtain ⟨c, hc, rfl⟩ := List.mem_map.1 hm
  obtain ⟨node, -, -, origin, held⟩ := mem_keyed resolved hc
  exact held.length_missing

/-- Every column of a frame has a cell in every row. -/
theorem length_cells (h : (ofTerms options terms source).outcome = .ok frame) {node : Node}
    {column : FrameColumn} (found : frame.column node = .ok column) :
    column.cells.length = frame.rows := by
  obtain ⟨table, columns, rfl, resolved, rfl⟩ := ofTerms_eq_ok h
  have entry := Dictionary.mem_of_get? (column_eq_ok found)
  rw [columns_assemble] at entry
  obtain ⟨c, hc, same⟩ := List.mem_map.1 entry
  obtain ⟨-, rfl⟩ := Prod.mk.inj same
  obtain ⟨node', -, -, origin, held⟩ := mem_keyed resolved hc
  rw [cells_finished]
  exact Mask.length_keep_congr _ held.length_cells

/-- The column of `node` holds in the kept rows, in their order, what `origin` stands for. -/
def Holds (options : Options) (table : Table) (frame : ModelFrame) (node origin : Node) : Prop :=
  ∃ column values, frame.column node = .ok column ∧
    sourceColumn options table origin = .ok values ∧
    frame.retained.Keeps Cell.Same column.cells values.cells

theorem Resolves.keeps {node : Node} {column : FrameColumn} {origin : Column} {mask : Mask}
    (h : Resolves options table node column origin) (hm : mask.length = table.rows) :
    mask.Keeps Cell.Same (finished options mask column).cells origin.cells := by
  rw [cells_finished]
  exact Mask.keeps_keep h.cells (by rw [hm, h.length_cells, Table.rows])

/-- The column of an evaluation term is the one resolved for the last evaluation term of its
text. -/
theorem last_resolved (h : (ofTerms options terms (.table table)).outcome = .ok frame)
    (well_formed : ∀ node ∈ terms.vocabulary, node.wellFormed = true) {node : Node}
    (hn : node ∈ terms.vocabulary) : ∃ before last after column,
      terms.vocabulary = before ++ last :: after ∧ last.text = node.text ∧
      (∀ later ∈ after, later.text ≠ node.text) ∧
      (resolve options table last).outcome = .ok column ∧
      frame.column node = .ok (finished options frame.retained column) := by
  obtain ⟨table', columns, same, resolved, rfl⟩ := ofTerms_eq_ok h
  cases same
  obtain ⟨before, last, after, column, split, text, others, done, found⟩ :=
    exists_last (R := fun node c => (resolve options table node).outcome = .ok c)
      (resolved_of_resolveAll resolved) hn
  refine ⟨before, last, after, column, split, text, others, done,
    column_of_get? (well_formed node hn) ?_⟩
  rw [columns_assemble, Dictionary.get?_map, found]
  rfl

/-- The column of an evaluation term stands for the last evaluation term of its text. -/
theorem column_last (h : (ofTerms options terms (.table table)).outcome = .ok frame)
    (well_formed : ∀ node ∈ terms.vocabulary, node.wellFormed = true) {node : Node}
    (hn : node ∈ terms.vocabulary) : ∃ before last after column origin,
      terms.vocabulary = before ++ last :: after ∧ last.text = node.text ∧
      (∀ later ∈ after, later.text ≠ node.text) ∧ Resolves options table last column origin ∧
      frame.column node = .ok (finished options frame.retained column) := by
  obtain ⟨before, last, after, column, split, text, others, done, found⟩ :=
    last_resolved h well_formed hn
  obtain ⟨origin, held⟩ := resolve_eq_ok done
  exact ⟨before, last, after, column, origin, split, text, others, held, found⟩

/-- An evaluation term whose text no other has gets the column that is resolved for it. -/
theorem column_resolved (h : (ofTerms options terms (.table table)).outcome = .ok frame)
    (well_formed : ∀ node ∈ terms.vocabulary, node.wellFormed = true) {node : Node}
    (hn : node ∈ terms.vocabulary)
    (unique : ∀ other ∈ terms.vocabulary, other.text = node.text → other = node) :
    ∃ column, (resolve options table node).outcome = .ok column ∧
      frame.column node = .ok (finished options frame.retained column) := by
  obtain ⟨before, last, after, column, split, text, -, done, found⟩ :=
    last_resolved h well_formed hn
  rw [unique last (by rw [split]; simp) text] at done
  exact ⟨column, done, found⟩

/-- **The column of an evaluation term holds what the last evaluation term of its text stands
for.** -/
theorem holds_last (h : (ofTerms options terms (.table table)).outcome = .ok frame)
    (well_formed : ∀ node ∈ terms.vocabulary, node.wellFormed = true) {node : Node}
    (hn : node ∈ terms.vocabulary) : ∃ before last after,
      terms.vocabulary = before ++ last :: after ∧ last.text = node.text ∧
      (∀ later ∈ after, later.text ≠ node.text) ∧ Holds options table frame node last := by
  obtain ⟨before, last, after, column, origin, split, text, others, held, found⟩ :=
    column_last h well_formed hn
  exact ⟨before, last, after, split, text, others, _, origin, found, held.source_eq,
    held.keeps (length_retained h)⟩

end Rows

end ModelFrame

end ModelFormula
