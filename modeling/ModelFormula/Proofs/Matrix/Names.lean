import ModelFormula.Proofs.Matrix.Reference

/-!
# Names of matrix columns

* `ModelMatrix.Label` — the label of a column: the intercept, a numeric term, or a term with the
  level that the column indicates.
* `ModelMatrix.labelled_of_build` — a matrix has names exactly when every term is built from a single
  evaluation term, and then each column has its label.
-/

set_option autoImplicit false

namespace ModelFormula

namespace ModelFrame

/-- The labels of a factor are those of its levels without the base. -/
theorem filterMap_zipIdx_ne {α β : Type} (g : α → β) (xs : List α) (start : Nat) (base : Int) :
    ((xs.zipIdx start).filterMap fun p => if (p.2 : Int) = base then none else some (g p.1)) =
      if (start : Int) ≤ base then (xs.eraseIdx (base - start).toNat).map g else xs.map g := by
  induction xs generalizing start with
  | nil => simp
  | cons x xs ih =>
    rw [List.zipIdx_cons, List.filterMap_cons, ih]
    by_cases here : (start : Int) = base
    · have past : ¬((start + 1 : Nat) : Int) ≤ base := by omega
      have zero : (base - start).toNat = 0 := by omega
      rw [if_pos here, if_neg past, if_pos (Int.le_of_eq here), zero, List.eraseIdx_zero]
      rfl
    · rw [if_neg here]
      by_cases low : (start : Int) ≤ base
      · have next : ((start + 1 : Nat) : Int) ≤ base := by omega
        have succ : (base - start).toNat = (base - (start + 1 : Nat)).toNat + 1 := by omega
        rw [if_pos next, if_pos low, succ, List.eraseIdx_cons_succ, List.map_cons]
      · have next : ¬((start + 1 : Nat) : Int) ≤ base := by omega
        rw [if_neg next, if_neg low, List.map_cons]

theorem levelNames_eq (term : Node) (levels : List Level) {base : Int} (low : 1 ≤ base) :
    levelNames term levels base =
      (levels.eraseIdx (base - 1).toNat).map fun v => term.text ++ " - " ++ v.label := by
  have := filterMap_zipIdx_ne (fun v : Level => term.text ++ " - " ++ v.label) levels 1 base
  rw [if_pos (show ((1 : Nat) : Int) ≤ base from low)] at this
  exact this

end ModelFrame

namespace ModelMatrix

/-- The label of a column that is assigned to term `j`, counted from one; zero is the intercept. -/
inductive Label (frame : ModelFrame) (precision : Precision) :
    Nat → List Float → String → Prop where
  | intercept (column : List Float) : Label frame precision 0 column "(Intercept)"
  | numeric {j : Nat} {term node : Node} {values : List Float}
      (effect : frame.terms.fixedEffects[j]? = some term)
      (terms : frame.terms.distinctTerms term = [node])
      (found : frame.column node = .ok (.numeric values)) :
      Label frame precision (j + 1) (values.map (round precision)) term.text
  /-- The column is one exactly in the rows that hold the level, else zero. -/
  | level {j : Nat} {term node : Node} {f : Factor} {v : Level}
      (effect : frame.terms.fixedEffects[j]? = some term)
      (terms : frame.terms.distinctTerms term = [node])
      (found : frame.column node = .ok (.factor f)) (mem : v ∈ f.levels) :
      Label frame precision (j + 1) (indicator f.values v) (term.text ++ " - " ++ v.label)

/-- What the names of a matrix are. -/
structure Labelled (frame : ModelFrame) (m : ModelMatrix) : Prop where
  none_iff : m.names = none ↔
    ∃ term ∈ frame.terms.fixedEffects, ∃ a b, frame.terms.distinctTerms term = [a, b]
  length : ∀ names, m.names = some names → names.length = m.block.width
  label : ∀ names, m.names = some names → ∀ c < m.block.width, ∃ j column name,
    m.assign[c]? = some j ∧ m.block.columns[c]? = some column ∧ names[c]? = some name ∧
      Label frame m.precision j column name

/-! ## Rounding -/

/-- Zero and one are numbers of every precision. -/
theorem round_indicator (precision : Precision) (values : List (Option Level)) (v : Level) :
    (indicator values v).map (round precision) = indicator values v := by
  unfold indicator
  rw [List.map_map]
  refine List.map_congr_left fun cell _ => ?_
  show round precision (if cell = some v then 1.0 else 0.0) = if cell = some v then 1.0 else 0.0
  cases precision with
  | single => split <;> rfl
  | double => rfl

/-! ## Names of terms -/

variable {frame : ModelFrame} {base : Int}

/-- The names of a term with a single evaluation term are the labels of its columns. -/
theorem termNames_single (precision : Precision) {column j : Nat} {term node : Node} {c : FrameColumn}
    (at_column : frame.terms.evaluationTermsAt column = frame.terms.distinctTerms term)
    (effect : frame.terms.fixedEffects[j]? = some term)
    (terms : frame.terms.distinctTerms term = [node]) (found : frame.column node = .ok c)
    (codable : c.Codable base) : ∃ names, frame.termNames base column term = .ok names ∧
      List.Forall₂ (fun name xs => Label frame precision (j + 1) (xs.map (round precision)) name)
        names (c.coding base) := by
  unfold ModelFrame.termNames
  rw [at_column, terms]
  cases c with
  | numeric values =>
    refine ⟨[term.text], ?_, .cons (.numeric effect terms found) .nil⟩
    show (frame.column node >>= _) = _
    rw [found]
    rfl
  | factor f =>
    refine ⟨ModelFrame.levelNames term f.levels base, ?_, ?_⟩
    · show (frame.column node >>= _) = _
      rw [found]
      rfl
    · rw [ModelFrame.levelNames_eq term f.levels codable.2.1, FrameColumn.coding,
        List.forall₂_map_left_iff, List.forall₂_map_right_iff, List.forall₂_same]
      intro v hv
      rw [round_indicator]
      exact .level effect terms found (List.mem_of_mem_eraseIdx hv)

theorem termNames_pair {column : Nat} {term a b : Node}
    (at_column : frame.terms.evaluationTermsAt column = frame.terms.distinctTerms term)
    (terms : frame.terms.distinctTerms term = [a, b]) :
    ∃ reason hints, frame.termNames base column term =
      .error (.invalidTerm term.text reason hints) := by
  unfold ModelFrame.termNames
  rw [at_column, terms]
  exact ⟨_, _, rfl⟩

/-! ## Names of all terms -/

theorem forall₂_zip_replicate {α β : Type} {R : α → Nat × β → Prop} {j : Nat} {xs : List α}
    {ys : List β} (h : List.Forall₂ (fun x y => R x (j, y)) xs ys) :
    List.Forall₂ R xs ((List.replicate ys.length j).zip ys) := by
  induction h with
  | nil => exact .nil
  | cons head _ ih =>
    rw [List.length_cons, List.replicate_succ, List.zip_cons_cons]
    exact .cons head ih

/-- Terms at their columns, of which the first is the one after `k` others. -/
structure Consecutive (frame : ModelFrame) (k : Nat) (entries : List (Nat × Node)) : Prop where
  at_column : ∀ p ∈ entries,
    frame.terms.evaluationTermsAt p.1 = frame.terms.distinctTerms p.2
  effect : ∀ (i : Nat) p, entries[i]? = some p → frame.terms.fixedEffects[k + i]? = some p.2

theorem Consecutive.tail {k : Nat} {p : Nat × Node} {entries : List (Nat × Node)}
    (h : Consecutive frame k (p :: entries)) : Consecutive frame (k + 1) entries := by
  refine ⟨fun q hq => h.at_column q (List.mem_cons_of_mem _ hq), fun i q hq => ?_⟩
  have := h.effect (i + 1) q (by rwa [List.getElem?_cons_succ])
  rwa [Nat.add_right_comm, Nat.add_assoc]

theorem Consecutive.head {k : Nat} {p : Nat × Node} {entries : List (Nat × Node)}
    (h : Consecutive frame k (p :: entries)) :
    frame.terms.evaluationTermsAt p.1 = frame.terms.distinctTerms p.2 ∧
      frame.terms.fixedEffects[k]? = some p.2 :=
  ⟨h.at_column p List.mem_cons_self, h.effect 0 p rfl⟩

/-- If every term has a single evaluation term, the names are the labels of the columns. -/
theorem termsNames_single (precision : Precision) {k : Nat} {entries : List (Nat × Node)} {blocks : List Block}
    (place : Consecutive frame k entries)
    (held : List.Forall₂ (fun p b => IsBlock frame base p.2 b.columns) entries blocks)
    (single : ∀ p ∈ entries, ∀ a b, frame.terms.distinctTerms p.2 ≠ [a, b]) :
    ∃ names, frame.termsNames base entries = .ok names ∧
      List.Forall₂ (fun name p => Label frame precision p.1 (p.2.map (round precision)) name) names
        ((assignment (k + 1) blocks).zip (blocks.flatMap Block.columns)) := by
  -- The number of the first term grows along the list, so it is generalized.
  induction held generalizing k with
  | nil => exact ⟨[], rfl, .nil⟩
  | @cons p b entries blocks head _ ih =>
    obtain ⟨at_column, effect⟩ := place.head
    obtain ⟨others, tail_eq, tail⟩ :=
      ih place.tail fun q hq => single q (List.mem_cons_of_mem _ hq)
    generalize columns_eq : b.columns = columns at head
    cases head with
    | pair terms => exact absurd terms (single p List.mem_cons_self _ _)
    | @single node c terms found codable =>
      obtain ⟨names, head_eq, labels⟩ :=
        termNames_single precision at_column effect terms found codable
      refine ⟨names ++ others, ?_, ?_⟩
      · show (frame.termNames base p.1 p.2 >>= _) = _
        rw [head_eq]
        show (frame.termsNames base entries >>= _) = _
        rw [tail_eq]
        rfl
      · rw [assignment_cons, List.flatMap_cons, columns_eq, List.zip_append]
        · refine List.rel_append ?_ tail
          have width : b.width = (c.coding base).length := by rw [Block.width, columns_eq]
          rw [width]
          exact forall₂_zip_replicate labels
        · rw [List.length_replicate, Block.width, columns_eq]

/-- If a term has two evaluation terms, the names are refused. -/
theorem termsNames_pair {k : Nat} {entries : List (Nat × Node)} {blocks : List Block}
    (place : Consecutive frame k entries)
    (held : List.Forall₂ (fun p b => IsBlock frame base p.2 b.columns) entries blocks)
    (pair : ∃ p ∈ entries, ∃ a b, frame.terms.distinctTerms p.2 = [a, b]) :
    ∃ term reason hints,
      frame.termsNames base entries = .error (.invalidTerm term reason hints) := by
  induction held generalizing k with
  | nil =>
    obtain ⟨p, hp, -⟩ := pair
    cases hp
  | @cons p b entries blocks head _ ih =>
    obtain ⟨at_column, effect⟩ := place.head
    generalize b.columns = columns at head
    cases head with
    | @pair a b first second _ terms =>
      obtain ⟨reason, hints, refused⟩ := termNames_pair at_column terms
      refine ⟨p.2.text, reason, hints, ?_⟩
      show (frame.termNames base p.1 p.2 >>= _) = _
      rw [refused]
      rfl
    | @single node c terms found codable =>
      have later : ∃ q ∈ entries, ∃ a b, frame.terms.distinctTerms q.2 = [a, b] := by
        obtain ⟨q, hq, a, b, two⟩ := pair
        rcases List.mem_cons.1 hq with rfl | hq
        · rw [terms] at two
          cases two
        · exact ⟨q, hq, a, b, two⟩
      obtain ⟨term, reason, hints, refused⟩ := ih place.tail later
      obtain ⟨names, head_eq, -⟩ :=
        termNames_single .double at_column effect terms found codable
      refine ⟨term, reason, hints, ?_⟩
      show (frame.termNames base p.1 p.2 >>= _) = _
      rw [head_eq]
      show (frame.termsNames base entries >>= _) = _
      rw [refused]
      rfl

/-! ## Names of all columns -/

theorem consecutive_fixedTerms : Consecutive frame 0 frame.terms.fixedTerms := by
  refine ⟨fun p hp => TermsTable.evaluationTermsAt_of_mem hp, fun i p hp => ?_⟩
  rw [Nat.zero_add, ← TermsTable.fixedTerms_map_snd, List.getElem?_map, hp]
  rfl

theorem mem_fixedEffects {P : Node → Prop} : (∃ p ∈ frame.terms.fixedTerms, P p.2) ↔
    ∃ term ∈ frame.terms.fixedEffects, P term := by
  rw [← TermsTable.fixedTerms_map_snd]
  constructor
  · rintro ⟨p, hp, holds⟩
    exact ⟨p.2, List.mem_map_of_mem hp, holds⟩
  · rintro ⟨term, hterm, holds⟩
    obtain ⟨p, hp, rfl⟩ := List.mem_map.1 hterm
    exact ⟨p, hp, holds⟩

/-- If a term has two evaluation terms, the matrix has no names. -/
theorem columnNames_pair {term reason : String} {hints : List String}
    (h : frame.termsNames base frame.terms.fixedTerms = .error (.invalidTerm term reason hints)) :
    (columnNames frame base).outcome = .ok none := by
  have refused : frame.coefficientNames base = .error (.invalidTerm term reason hints) := by
    show (frame.termsNames base frame.terms.fixedTerms >>= _) = _
    rw [h]
    rfl
  unfold columnNames
  rw [refused]
  rfl

theorem columnNames_single {names : List String}
    (h : frame.termsNames base frame.terms.fixedTerms = .ok names) :
    (columnNames frame base).outcome =
      .ok (some (if frame.terms.intercept then "(Intercept)" :: names else names)) := by
  have named : frame.coefficientNames base =
      .ok (if frame.terms.intercept then "(Intercept)" :: names else names) := by
    show (frame.termsNames base frame.terms.fixedTerms >>= _) = _
    rw [h]
    rfl
  unfold columnNames
  rw [named]
  rfl

/-- With the intercept, the names are still the labels of the columns. -/
theorem label_withIntercept {precision : Precision} {blocks : List Block} {names : List String}
    (h : List.Forall₂ (fun name p => Label frame precision p.1 (p.2.map (round precision)) name)
      names ((assignment 1 blocks).zip (blocks.flatMap Block.columns))) :
    List.Forall₂ (fun name p => Label frame precision p.1 (p.2.map (round precision)) name)
      (if frame.terms.intercept then "(Intercept)" :: names else names)
      ((assignment (withIntercept frame blocks).1 (withIntercept frame blocks).2).zip
        ((withIntercept frame blocks).2.flatMap Block.columns)) := by
  unfold withIntercept
  cases frame.terms.intercept with
  | true => exact .cons (.intercept _) h
  | false => exact h

/-- The label at a position. -/
theorem label_at {assign : List Nat} {columns : List (List Float)} {names : List String}
    {R : Nat → List Float → String → Prop}
    (h : List.Forall₂ (fun name p => R p.1 p.2 name) names (assign.zip columns))
    (sizes : assign.length = columns.length) {c : Nat} (hc : c < columns.length) :
    ∃ j column name, assign[c]? = some j ∧ columns[c]? = some column ∧ names[c]? = some name ∧
      R j column name := by
  have zipped : c < (assign.zip columns).length := by
    rw [List.length_zip]
    omega
  have named : c < names.length := h.length_eq ▸ zipped
  have label := h.get named zipped
  rw [List.get_eq_getElem, List.get_eq_getElem, List.getElem_zip] at label
  exact ⟨_, _, _, List.getElem?_eq_getElem (by omega), List.getElem?_eq_getElem hc,
    List.getElem?_eq_getElem named, label⟩

/-- **The names of a matrix are the labels of its columns.** -/
theorem labelled_of_build {options : ModelFrame.Options} {formula : Node} {source : Source}
    {settings : Settings} {m : ModelMatrix}
    (hf : (ModelFrame.build options formula source).outcome = .ok frame)
    (hm : (build settings frame).outcome = .ok m) : Labelled frame m := by
  obtain ⟨blocks, names, built, named, rfl⟩ := build_eq_ok hm
  have held := (termBlocks_eq_ok (rectangular_of_build hf)
    (fun p hp => TermsTable.evaluationTermsAt_of_mem hp) built).imp fun _ _ h => h.1
  by_cases pair : ∃ p ∈ frame.terms.fixedTerms, ∃ a b, frame.terms.distinctTerms p.2 = [a, b]
  · obtain ⟨term, reason, hints, refused⟩ := termsNames_pair consecutive_fixedTerms held pair
    rw [columnNames_pair refused] at named
    cases named
    exact ⟨⟨fun _ => mem_fixedEffects.1 pair, fun _ => rfl⟩, fun _ none => (by cases none),
      fun _ none => (by cases none)⟩
  · have single : ∀ p ∈ frame.terms.fixedTerms, ∀ a b,
        frame.terms.distinctTerms p.2 ≠ [a, b] := fun p hp a b two => pair ⟨p, hp, a, b, two⟩
    obtain ⟨labels, labels_eq, of_terms⟩ := termsNames_single
      settings.matrix.precision consecutive_fixedTerms held single
    rw [columnNames_single labels_eq] at named
    cases named
    have all := label_withIntercept of_terms
    have sizes := length_assignment (withIntercept frame blocks).1 (withIntercept frame blocks).2
    have width : ((Block.beside frame.rows (withIntercept frame blocks).2).map
        (round settings.matrix.precision)).width =
        ((withIntercept frame blocks).2.flatMap Block.columns).length := List.length_map _
    refine ⟨⟨fun none => (by cases none), fun two => absurd (mem_fixedEffects.2 two) pair⟩, ?_, ?_⟩
    · rintro names ⟨⟩
      rw [all.length_eq, List.length_zip, sizes, Nat.min_self, width]
    · rintro names ⟨⟩ c hc
      rw [width] at hc
      obtain ⟨j, column, name, hj, hcolumn, hname, label⟩ :=
        label_at (R := fun j column name => Label frame settings.matrix.precision j
          (column.map (round settings.matrix.precision)) name) all sizes hc
      refine ⟨j, _, name, hj, ?_, hname, label⟩
      show (((withIntercept frame blocks).2.flatMap Block.columns).map
        (List.map (round settings.matrix.precision)))[c]? = _
      rw [List.getElem?_map, hcolumn]
      rfl

/-- The formula `~ g` over three levels, in single precision and with the last level as the base. -/
theorem labelled_of_build_threeLevels : ∃ frame m,
    (ModelFrame.build {} (.formula none (.var "g")) (.table threeLevels)).outcome = .ok frame ∧
    (build { contrasts := { base := 3 }, matrix := { precision := .single } } frame).outcome =
      .ok m ∧
    m.names = some ["(Intercept)", "g - low", "g - mid"] ∧ Labelled frame m := by
  have built : (fun frame => (fun m : ModelMatrix => m.names) <$>
        (build { contrasts := { base := 3 }, matrix := { precision := .single } } frame).outcome) <$>
      (ModelFrame.build {} (.formula none (.var "g")) (.table threeLevels)).outcome =
        .ok (.ok (some ["(Intercept)", "g - low", "g - mid"])) := by
    decide +kernel
  obtain ⟨frame, hf, built⟩ := map_eq_ok.1 built
  obtain ⟨m, hm, names⟩ := map_eq_ok.1 built
  exact ⟨frame, m, hf, hm, names, labelled_of_build hf hm⟩

end ModelMatrix

end ModelFormula
