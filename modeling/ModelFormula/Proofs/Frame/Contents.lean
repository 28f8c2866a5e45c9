import ModelFormula.Proofs.Frame.Build

/-!
# Contents of a frame

* `ModelFrame.contents_of_build` — if no two evaluation terms of a formula have one text, the frame
  holds one column for each of them, cut down to the complete rows, with the labels and the
  response of these rows.
* `ModelFrame.keeps_response` — a response has the values of its column.
-/

set_option autoImplicit false

namespace ModelFormula.ModelFrame

/-- The cells of a response. -/
def Response.cells : Response → List Cell
  | .numbers values => values.map .number
  | .levels cells => cells.map .level

/-- What a frame with the left-hand side `left` holds of a table. -/
structure Contents (options : Options) (left : Option Node) (table : Table)
    (frame : ModelFrame) : Prop where
  /-- The columns stand under the texts of the evaluation terms, in their order. -/
  keys : frame.columns.keys = frame.terms.vocabulary.map Node.text
  length_retained : frame.retained.length = table.rows
  /-- The rows are counted in the order in which they stand in the table. -/
  positions : frame.retained.positions.Pairwise (· < ·) ∧
    ∀ i, i ∈ frame.retained.positions ↔ frame.retained[i]? = some true
  /-- The rows are kept in which nothing is missing. -/
  retained_iff : ∀ i < table.rows, frame.retained[i]? = some true ↔
    ∀ node ∈ frame.terms.vocabulary, ∃ values cell, sourceColumn options table node = .ok values ∧
      values.cells[i]? = some cell ∧ cell.isMissing = false
  infinite : ∀ x : Float, x.isInf = true → (Cell.number x).isMissing = false
  index : frame.retained.Keeps Eq frame.index table.index
  columns : ∀ node ∈ frame.terms.vocabulary, Holds options table frame node node
  response : match left with
    | none => frame.response = .error (.missingResponse frame.terms.formula.text)
    | some node => ∃ response values, frame.response = .ok response ∧
        sourceColumn options table node = .ok values ∧
        frame.retained.Keeps Cell.Same response.cells values.cells

/-! ## Responses -/

theorem isFloat_eq {v : Level} (h : v.isFloat = true) : ∃ x, v = .float x := by
  cases v with
  | float x => exact ⟨x, rfl⟩
  | _ => cases h

/-- The doubles of a factor of doubles are its levels.  Levels of one value need not be one double,
so the cells themselves have to agree with what was kept. -/
theorem keeps_doubles {f : Factor} {mask : Mask} {values : List Cell} (kind : f.kind = .floating)
    (exact : mask.Keeps Eq (f.values.map Cell.level) values)
    (present : Cell.level none ∉ f.values.map Cell.level) :
    mask.Keeps Cell.Same
      (Response.numbers (f.values.map (Column.floatOf Level.toFloat))).cells values := by
  have double : ∀ v ∈ f.levels, v.isFloat = true := by
    have described := f.described
    rw [kind] at described
    exact described
  obtain ⟨size, rows⟩ := exact
  refine ⟨?_, fun r i kept => ?_⟩
  · rw [← size]
    simp [Response.cells]
  · obtain ⟨cell, value, at_row, at_source, rfl⟩ := rows r i kept
    obtain ⟨v, hv, rfl⟩ := List.mem_map.1 (List.mem_of_getElem? at_row)
    cases v with
    | none => exact absurd (List.mem_map_of_mem hv) present
    | some w =>
      obtain ⟨x, rfl⟩ := isFloat_eq (double w (Factor.mem_levels_of_values hv))
      have row : f.values[r]? = some (some (.float x)) := by simpa using at_row
      refine ⟨.number x, .level (some (.float x)), ?_, at_source, rfl⟩
      simp [Response.cells, row, Column.floatOf, Level.toFloat]

/-- What the response of a factor is, if no row is missing. -/
theorem response_ofFactor {f : Factor} (complete : f.hasMissing = false) :
    Response.ofColumn (.factor f) =
      if f.kind = .floating then .numbers (f.values.map (Column.floatOf Level.toFloat))
      else .levels f.values := by
  cases kind : f.kind <;> simp [Response.ofColumn, kind, complete]

/-- **A response has the values of its column**, if none of these is missing. -/
theorem keeps_response {c : FrameColumn} {mask : Mask} {values : List Cell}
    (same : mask.Keeps Cell.Same c.cells values)
    (exact : ∀ f, c = .factor f → f.kind = .floating → mask.Keeps Eq c.cells values)
    (present : Cell.level none ∉ c.cells) :
    mask.Keeps Cell.Same (Response.ofColumn c).cells values := by
  cases c with
  | numeric xs => exact same
  | factor f =>
    have complete : f.hasMissing = false := by
      rw [Bool.eq_false_iff, ne_eq, Factor.hasMissing_iff]
      exact fun none_mem => present (List.mem_map_of_mem none_mem)
    rw [response_ofFactor complete]
    split
    · rename_i kind
      exact keeps_doubles kind (exact f rfl kind) present
    · exact same

/-- Where the kept values are not missing, no kept level is. -/
theorem level_none_not_mem {mask : Mask} {cells values : List Cell}
    (same : mask.Keeps Cell.Same cells values)
    (complete : ∀ (i : Nat) (value : Cell), mask[i]? = some true → values[i]? = some value →
      value.isMissing = false) : Cell.level none ∉ cells := by
  intro mem
  obtain ⟨size, rows⟩ := same
  obtain ⟨r, hr, at_row⟩ := List.mem_iff_getElem.1 mem
  have hr' : r < mask.positions.length := size ▸ hr
  have kept : mask.positions[r]? = some mask.positions[r] := List.getElem?_eq_getElem hr'
  obtain ⟨cell, value, found, at_source, agree⟩ := rows r _ kept
  rw [List.getElem?_eq_getElem hr, at_row] at found
  cases found
  have present := complete _ value (Mask.mem_positions.1 (List.getElem_mem hr')) at_source
  cases value with
  | number x => cases agree
  | other s => exact agree
  | level v =>
    cases v with
    | none => cases present
    | some w => cases agree

/-! ## Rows -/

variable {options : Options} {terms : TermsTable} {frame : ModelFrame} {table : Table}
  {columns : List (String × FrameColumn)}

theorem exists_of_forall₂ {α β : Type} {R : α → β → Prop} {xs : List α} {ys : List β}
    (h : List.Forall₂ R xs ys) {x : α} (hx : x ∈ xs) : ∃ y ∈ ys, R x y := by
  obtain ⟨i, hi, rfl⟩ := List.mem_iff_getElem.1 hx
  have hi' : i < ys.length := h.length_eq ▸ hi
  exact ⟨ys[i], List.getElem_mem hi', h.get hi hi'⟩

/-- Where a resolved column is not missing, what it stands for has a cell that is not. -/
theorem Resolves.present_iff {node : Node} {column : FrameColumn} {origin : Column}
    (h : Resolves options table node column origin) (i : Nat) :
    column.missing[i]? = some false ↔
      ∃ cell, origin.cells[i]? = some cell ∧ cell.isMissing = false := by
  rw [h.missing, Column.missing_eq_cells, List.getElem?_map, Option.map_eq_some_iff]

/-- Stored under texts that differ, the columns are those that were resolved. -/
theorem keyed_eq (h : (resolveAll options table terms.vocabulary).outcome = .ok columns)
    (distinct : (terms.vocabulary.map Node.text).Nodup) : keyed columns = columns := by
  refine Dictionary.putAll_of_nodup [] columns ?_
  rw [List.nil_append, keys_of_resolveAll h]
  exact distinct

/-- The complete rows are kept. -/
theorem retained_iff (h : (resolveAll options table terms.vocabulary).outcome = .ok columns)
    (omit_missing : options.missing = .omitIncomplete)
    (distinct : (terms.vocabulary.map Node.text).Nodup) {i : Nat} (hi : i < table.rows) :
    (assemble options terms table.index (keyed columns)).retained[i]? = some true ↔
      ∀ node ∈ terms.vocabulary, ∃ values cell, sourceColumn options table node = .ok values ∧
        values.cells[i]? = some cell ∧ cell.isMissing = false := by
  have resolved := resolveAll_eq_ok h
  have mask : (assemble options terms table.index (keyed columns)).retained =
      Mask.complete table.rows (columns.map fun c => c.2.missing) := by
    rw [keyed_eq h distinct]
    show options.missing.mask _ _ = _
    rw [omit_missing]
    rfl
  have size : ∀ marks ∈ columns.map fun c => c.2.missing, marks.length = table.rows := by
    intro marks hm
    obtain ⟨c, hc, rfl⟩ := List.mem_map.1 hm
    obtain ⟨node, -, -, origin, held⟩ := mem_resolved h hc
    exact held.length_missing
  rw [mask, Mask.getElem?_complete size hi, List.forall_mem_map]
  constructor
  · intro present node hn
    obtain ⟨c, hc, -, origin, held⟩ := exists_of_forall₂ resolved hn
    obtain ⟨cell, at_row, there⟩ := (held.present_iff i).1 (present c hc)
    exact ⟨origin, cell, held.source_eq, at_row, there⟩
  · intro present c hc
    obtain ⟨node, hn, -, origin, held⟩ := mem_resolved h hc
    obtain ⟨values, cell, source_eq, at_row, there⟩ := present node hn
    rw [held.source_eq] at source_eq
    cases source_eq
    exact (held.present_iff i).2 ⟨cell, at_row, there⟩

/-! ## Frames -/

/-- A frame of a formula without a left-hand side has no response. -/
theorem response_none (h : frame.terms.left = none) :
    frame.response = .error (.missingResponse frame.terms.formula.text) := by
  unfold response
  rw [TermsTable.responseTerm?_eq, h]

theorem response_some {node : Node} {column : FrameColumn} (h : frame.terms.left = some node)
    (found : frame.column node = .ok column) :
    frame.response = .ok (Response.ofColumn column) := by
  unfold response
  rw [TermsTable.responseTerm?_eq, h]
  show (frame.column node).map Response.ofColumn = _
  rw [found]
  rfl

/-- Among evaluation terms of different texts, each has its own column. -/
theorem column_own (h : (ofTerms options terms (.table table)).outcome = .ok frame)
    (well_formed : ∀ node ∈ terms.vocabulary, node.wellFormed = true)
    (distinct : (terms.vocabulary.map Node.text).Nodup) {node : Node}
    (hn : node ∈ terms.vocabulary) : ∃ column origin, Resolves options table node column origin ∧
      frame.column node = .ok (finished options frame.retained column) := by
  obtain ⟨column, done, found⟩ := column_resolved h well_formed hn fun other ho text =>
    List.inj_on_of_nodup_map distinct ho hn text
  obtain ⟨origin, held⟩ := resolve_eq_ok done
  exact ⟨column, origin, held, found⟩

theorem kind_finished {mask : Mask} {c : FrameColumn} {f : Factor}
    (h : finished options mask c = .factor f) : ∃ g, c = .factor g ∧ g.kind = f.kind := by
  unfold finished at h
  cases c with
  | numeric xs => split at h <;> cases h
  | factor g =>
    refine ⟨g, rfl, ?_⟩
    split at h <;> cases h <;> rfl

/-- The response holds what the left-hand side stands for. -/
theorem response_own (h : (ofTerms options terms (.table table)).outcome = .ok frame)
    (well_formed : ∀ node ∈ terms.vocabulary, node.wellFormed = true)
    (distinct : (terms.vocabulary.map Node.text).Nodup)
    (complete : ∀ i : Nat, frame.retained[i]? = some true → ∀ node ∈ terms.vocabulary,
      ∃ (values : Column) (cell : Cell), sourceColumn options table node = .ok values ∧
        values.cells[i]? = some cell ∧ cell.isMissing = false)
    {node : Node} (left : frame.terms.left = some node) (hn : node ∈ terms.vocabulary) :
    ∃ response values, frame.response = .ok response ∧
      sourceColumn options table node = .ok values ∧
      frame.retained.Keeps Cell.Same response.cells values.cells := by
  obtain ⟨column, origin, held, found⟩ := column_own h well_formed distinct hn
  have size := length_retained h
  have same : frame.retained.Keeps Cell.Same (finished options frame.retained column).cells
      origin.cells := held.keeps size
  refine ⟨_, origin, response_some left found, held.source_eq, keeps_response same ?_ ?_⟩
  · intro f factor floating
    obtain ⟨g, rfl, kind⟩ := kind_finished factor
    rw [cells_finished, held.exact g rfl (kind.trans floating)]
    refine Mask.keeps_keep (List.forall₂_refl _) ?_
    rw [size, Column.length_cells, held.length]
  · refine level_none_not_mem same fun i value kept at_source => ?_
    obtain ⟨values, cell, source_eq, at_row, present⟩ := complete i kept node hn
    rw [held.source_eq] at source_eq
    cases source_eq
    rw [at_source] at at_row
    cases at_row
    exact present

/-- **A frame holds the complete rows of its evaluation terms**, if these have different texts: the
columns under the texts, the labels and the response, each row as it stood in the table. -/
theorem contents_of_build {formula : Node} {source : Source}
    (h : (build options formula source).outcome = .ok frame)
    (omit_missing : options.missing = .omitIncomplete)
    (distinct : (frame.terms.vocabulary.map Node.text).Nodup) :
    ∃ left right table, formula = .formula left right ∧ source = .table table ∧
      TermsTable.build left right = .ok frame.terms ∧ Contents options left table frame := by
  obtain ⟨left, right, terms, rfl, sides, built⟩ := build_eq_ok h
  have well_formed := TermsTable.wellFormed_of_build sides
  obtain ⟨left_eq, -⟩ := TermsTable.build_eq_ok sides
  obtain ⟨table, columns, rfl, resolved, frame_eq⟩ := ofTerms_eq_ok built
  have terms_eq : frame.terms = terms := by rw [frame_eq]; rfl
  rw [terms_eq] at distinct
  have size := length_retained built
  have complete : ∀ i < table.rows, frame.retained[i]? = some true ↔
      ∀ node ∈ terms.vocabulary, ∃ values cell, sourceColumn options table node = .ok values ∧
        values.cells[i]? = some cell ∧ cell.isMissing = false := fun i hi => by
    rw [frame_eq]
    exact retained_iff resolved omit_missing distinct hi
  refine ⟨left, right, table, rfl, rfl, terms_eq ▸ sides, ?_⟩
  refine ⟨?_, size, ⟨Mask.positions_pairwise _, fun _ => Mask.mem_positions⟩,
    terms_eq ▸ complete, fun x => Double.isNaN_of_isInf, ?_, ?_, ?_⟩
  · rw [frame_eq, columns_assemble, keyed_eq resolved distinct]
    show (columns.map _).map Prod.fst = terms.vocabulary.map Node.text
    rw [← keys_of_resolveAll resolved, List.map_map]
    rfl
  · have kept : frame.index = frame.retained.keep table.index := by rw [frame_eq]; rfl
    rw [kept]
    exact Mask.keeps_keep (List.forall₂_refl _) size
  · intro node hn
    rw [terms_eq] at hn
    obtain ⟨column, origin, held, found⟩ := column_own built well_formed distinct hn
    exact ⟨_, origin, found, held.source_eq, held.keeps size⟩
  · cases left with
    | none => exact response_none (by rw [terms_eq, left_eq])
    | some node =>
      have hn : node ∈ terms.vocabulary := TermsTable.left_mem_vocabulary left_eq
      refine response_own built well_formed distinct (fun i kept => ?_)
        (by rw [terms_eq, left_eq]) hn
      have hi := (List.getElem?_eq_some_iff.1 kept).1
      exact (complete i (size ▸ hi)).1 kept

/-- A table whose second row is incomplete and the only one of level `a`. -/
def incompleteTable : Table where
  columns :=
    [(.text "y", .ints [some 1, some 2, some 3, some 4]),
      (.text "x", .doubles [0.5, 0.0 / 0.0, 2.0, 3.0]),
      (.text "g", .factor (.code [.text "a", .text "b", .text "c"] (by decide) false
        [some (.text "b"), some (.text "a"), some (.text "c"), some (.text "b")]))]
  index := [.text "i", .text "j", .text "k", .text "l"]
  length_eq := by decide

/-- The formula `y ~ I(x)&g`. -/
def incompleteFormula : Node :=
  .formula (some (.var "y")) (.app "&" [.app "I" [.var "x"], .var "g"])

theorem contents_of_build_incompleteTable :
    ∃ frame, (build {} incompleteFormula (.table incompleteTable)).outcome = .ok frame ∧
      Contents {} (some (.var "y")) incompleteTable frame := by
  have texts : (fun frame : ModelFrame => frame.terms.vocabulary.map Node.text) <$>
      (build {} incompleteFormula (.table incompleteTable)).outcome = .ok ["y", "I(x)", "g"] := by
    decide +kernel
  obtain ⟨frame, built, texts⟩ := map_eq_ok.1 texts
  obtain ⟨left, right, table, formula, source, -, contents⟩ :=
    contents_of_build built rfl (by rw [texts]; decide)
  cases formula
  cases source
  exact ⟨frame, built, contents⟩

end ModelFormula.ModelFrame
