import ModelFormula.Proofs.Evaluable
import ModelFormula.Proofs.Frame.Variables
import ModelFormula.Proofs.Malformed

/-!
# When a frame can be built

A frame is refused for the first problem that is met: the formula is looked at before the data, the
data before any column, and the columns in the order of the vocabulary.  Once all columns are there,
nothing fails.

* `repeats_eq_nil_iff` — no label is repeated exactly if all differ.
* `FrameColumn.refusal?` — why a column of a table is no column of a frame.
* `ModelFrame.resolutionFailure?`, `ModelFrame.failure?_resolve` — why an evaluation term has no
  column.
* `ModelFrame.FirstProblem` — the first problem of a formula and its data;
  `ModelFrame.build_eq_error_iff` — a frame is refused for this one.
* `ModelFrame.fails_iff_firstProblem` — when building a frame fails, and how, in a session.
-/

set_option autoImplicit false

namespace ModelFormula

/-- Nothing is repeated exactly if no two items are the same. -/
theorem repeats_eq_nil_iff {α : Type} {same : α → α → Bool} {xs : List α} :
    repeats same xs = [] ↔ xs.Pairwise fun x y => same x y = false := by
  refine ⟨fun none_repeated => ?_, repeats_eq_nil⟩
  refine List.pairwise_iff_getElem.2 fun i j hi hj earlier => ?_
  unfold repeats at none_repeated
  rw [List.map_eq_nil_iff, List.filter_eq_nil_iff] at none_repeated
  have here : (xs[j], j) ∈ xs.zipIdx := List.mem_zipIdx_iff_getElem?.2 (List.getElem?_eq_getElem hj)
  have fresh := none_repeated _ here
  rw [List.any_eq_true] at fresh
  rw [Bool.eq_false_iff]
  intro equal
  exact fresh ⟨xs[i], List.mem_take_iff_getElem.2 ⟨i, by omega, rfl⟩, equal⟩

/-! ## Columns -/

namespace FrameColumn

/-- Why a column of a table is no column of a frame: it holds texts or objects that are not to become
factors, objects that cannot be looked up, or values that are neither numeric nor text. -/
def refusal? (textsAsFactors : Bool) (name : String) : Column → Option Failure
  | .texts storage _ =>
    if textsAsFactors then none else some (Column.notNumeric name storage.name)
  | .objects values =>
    if !textsAsFactors then some (Column.notNumeric name Column.objectStorage)
    else if values.all Plain.hashable then none
    else some .wrongKind
  | .other storage _ => some (Column.notNumeric name storage)
  | _ => none

theorem failure?_ofColumn (textsAsFactors : Bool) (name : String) (c : Column) :
    failure? (ofColumn textsAsFactors name c) = refusal? textsAsFactors name c := by
  cases c with
  | texts storage cells => cases textsAsFactors <;> rfl
  | objects values =>
    cases textsAsFactors with
    | false => rfl
    | true =>
      simp only [ofColumn, refusal?, Bool.not_true, Bool.false_eq_true, if_false]
      split <;> rfl
  | _ => rfl

end FrameColumn

namespace ModelFrame

variable {options : Options} {registry : Registry} {t : Table}

/-- Why an evaluation term has no column: a name is that of no column of the table, or of one that
is refused, and any other expression has no value. -/
def resolutionFailure? (registry : Registry) (settings : FrameSettings) (t : Table) :
    Node → Option Failure
  | .symbol name =>
    match t.columnsOf name with
    | [] => some (.missingColumn name t.labels)
    | c :: _ => FrameColumn.refusal? settings.textsAsFactors name.asText c
  | node => failure? (evaluateColumn registry node (.table t)).outcome

theorem failure?_column (distinct : t.labels.Pairwise fun a b => a.sameLabel b = false) {name : Plain}
    (named : name.isName = true) :
    failure? (t.column name >>=
        FrameColumn.ofColumn options.settings.textsAsFactors name.asText) =
      resolutionFailure? registry options.settings t (.symbol name) := by
  simp only [Table.column, resolutionFailure?, if_pos (Node.hashable_of_isName named)]
  rcases Table.columnsOf_of_distinct distinct name with nowhere | ⟨c, one⟩
  · rw [nowhere]
    rfl
  · rw [one]
    exact FrameColumn.failure?_ofColumn _ _ c

/-- What an evaluator of a registry gives is always a column of a frame. -/
theorem failure?_evaluated (standard : options.evaluator = .ofRegistry registry) (node : Node) :
    failure? ((options.evaluator node t).outcome >>= FrameColumn.ofColumn false node.text) =
      failure? (evaluateColumn registry node (.table t)).outcome := by
  rw [standard]
  show failure? ((Column.doubles <$> evaluateColumn registry node (.table t)).outcome >>= _) = _
  rw [Journal.outcome_map]
  cases (evaluateColumn registry node (.table t)).outcome <;> rfl

/-- **An evaluation term has its column, unless it is refused itself.** -/
theorem failure?_resolve (standard : options.evaluator = .ofRegistry registry)
    (row_wise : registry.Rowwise) (distinct : t.labels.Pairwise fun a b => a.sameLabel b = false)
    {node : Node} (h : node.wellFormed = true) :
    failure? (resolve options t node).outcome =
      resolutionFailure? registry options.settings t node := by
  have rowwise : options.evaluator.Rowwise := by
    rw [standard]
    exact Evaluator.rowwise_ofRegistry row_wise
  rw [outcome_resolve rowwise h]
  cases node with
  | symbol name => exact failure?_column distinct h
  | _ => exact failure?_evaluated standard _

/-- The columns of evaluation terms are resolved one after the other. -/
theorem outcome_resolveAll (nodes : List Node) :
    (resolveAll options t nodes).outcome =
      nodes.mapM fun node => Prod.mk node.text <$> (resolve options t node).outcome := by
  induction nodes with
  | nil => rfl
  | cons node nodes ih =>
    rw [List.mapM_cons, ← ih, resolveAll, Journal.outcome_bind]
    cases (resolve options t node).outcome with
    | error e => rfl
    | ok c =>
      show (resolveAll options t nodes >>= _ : Journal _).outcome = _
      rw [Journal.outcome_bind]
      rfl

theorem failure?_resolveAll (standard : options.evaluator = .ofRegistry registry)
    (row_wise : registry.Rowwise) (distinct : t.labels.Pairwise fun a b => a.sameLabel b = false)
    {nodes : List Node} (h : ∀ node ∈ nodes, node.wellFormed = true) :
    failure? (resolveAll options t nodes).outcome =
      nodes.findSome? (resolutionFailure? registry options.settings t) := by
  rw [outcome_resolveAll]
  refine failure?_mapM fun node hn => ?_
  rw [failure?_map]
  exact failure?_resolve standard row_wise distinct (h node hn)

/-! ## Frames -/

/-- Both sides of a formula are well formed. -/
def Sound (left : Option Node) (right : Node) : Prop :=
  ∀ node ∈ TermsTable.nodes left right, node.isMalformed = false

instance (left : Option Node) (right : Node) : Decidable (Sound left right) :=
  inferInstanceAs (Decidable (∀ node ∈ TermsTable.nodes left right, _))

/-- The first problem that is met when a frame is built of a value given as a formula and a value
given as data. -/
inductive FirstProblem (registry : Registry) (settings : FrameSettings) :
    Node → Source → Failure → Prop where
  /-- The value given as a formula is none. -/
  | notFormula {v : Node} {source : Source} (other : ∀ left right, v ≠ .formula left right) :
    FirstProblem registry settings v source (.malformed v "Formula")
  /-- A node of the formula is malformed. -/
  | malformed {left : Option Node} {right node : Node} {source : Source}
    (first : (TermsTable.nodes left right).find? Node.isMalformed = some node) :
    FirstProblem registry settings (.formula left right) source
      (.malformed node node.expectation)
  /-- The value given as data is no table. -/
  | notTable {left : Option Node} {right : Node} {v : Plain} (sound : Sound left right) :
    FirstProblem registry settings (.formula left right) (.value v)
      (.dataIssue ("data must be a pandas DataFrame, got " ++ v.kindName))
  /-- Two columns of the table have one label. -/
  | repeatedLabel {left : Option Node} {right : Node} {t : Table} (sound : Sound left right)
    (repeated : ¬ t.labels.Pairwise fun a b => a.sameLabel b = false) :
    FirstProblem registry settings (.formula left right) (.table t)
      (.dataIssue ("data has duplicated column names: " ++ (Plain.list t.repeatedLabels).shown))
  /-- An evaluation term has no column, and all before it in the vocabulary have one. -/
  | unresolved {left : Option Node} {right node : Node} {t : Table} {terms : TermsTable}
    {before after : List Node} {e : Failure} (sound : Sound left right)
    (distinct : t.labels.Pairwise fun a b => a.sameLabel b = false)
    (sides : TermsTable.build left right = .ok terms)
    (vocabulary : terms.vocabulary = before ++ node :: after)
    (resolved : ∀ other ∈ before, resolutionFailure? registry settings t other = none)
    (refused : resolutionFailure? registry settings t node = some e) :
    FirstProblem registry settings (.formula left right) (.table t) e

/-- What is said of a table with repeated labels. -/
theorem validate_of_repeated (repeated : ¬ t.labels.Pairwise fun a b => a.sameLabel b = false) :
    (Source.table t).validate "data" = .error (.dataIssue
      ("data has duplicated column names: " ++ (Plain.list t.repeatedLabels).shown)) := by
  have some_repeated : t.repeatedLabels.isEmpty = false := by
    rw [Bool.eq_false_iff, ne_eq, List.isEmpty_iff]
    exact fun none_repeated => repeated (repeats_eq_nil_iff.1 none_repeated)
  unfold Source.validate
  simp [some_repeated]

variable {left : Option Node} {right : Node} {terms : TermsTable} {source : Source}

theorem sound_iff : Sound left right ↔ ∃ terms, TermsTable.build left right = .ok terms := by
  rw [← failure?_eq_none_iff, TermsTable.failure?_build, Node.firstDefect?_eq_none_iff]
  rfl

/-- The frame of a table of terms is refused for the data or for the first term without a column. -/
theorem failure?_ofTerms (standard : options.evaluator = .ofRegistry registry)
    (row_wise : registry.Rowwise) (sides : TermsTable.build left right = .ok terms)
    (distinct : t.labels.Pairwise fun a b => a.sameLabel b = false) :
    failure? (ofTerms options terms (.table t)).outcome =
      terms.vocabulary.findSome? (resolutionFailure? registry options.settings t) := by
  rw [outcome_ofTerms, validate_of_distinct distinct,
    ← failure?_resolveAll standard row_wise distinct (TermsTable.wellFormed_of_build sides)]
  exact failure?_bind_of_ok fun columns _ => ⟨_, rfl⟩

/-- **The frame of a table of terms is refused for the first problem.** -/
theorem ofTerms_eq_error_iff (standard : options.evaluator = .ofRegistry registry)
    (row_wise : registry.Rowwise) (sides : TermsTable.build left right = .ok terms) {e : Failure} :
    (ofTerms options terms source).outcome = .error e ↔
      FirstProblem registry options.settings (.formula left right) source e := by
  have sound : Sound left right := sound_iff.2 ⟨terms, sides⟩
  have no_defect : ∀ node, (TermsTable.nodes left right).find? Node.isMalformed ≠ some node := by
    intro node found
    have malformed := List.find?_some found
    rw [sound node (List.mem_of_find?_eq_some found)] at malformed
    cases malformed
  constructor
  · intro failed
    cases source with
    | value v =>
      cases failed
      exact .notTable sound
    | table t =>
      by_cases distinct : t.labels.Pairwise fun a b => a.sameLabel b = false
      · rw [← failure?_eq_some_iff, failure?_ofTerms standard row_wise sides distinct,
          List.findSome?_eq_some_iff] at failed
        obtain ⟨before, node, after, vocabulary, refused, resolved⟩ := failed
        exact .unresolved sound distinct sides vocabulary resolved refused
      · rw [outcome_ofTerms, validate_of_repeated distinct] at failed
        cases failed
        exact .repeatedLabel sound distinct
  · intro problem
    cases problem with
    | notFormula other => exact absurd rfl (other left right)
    | malformed first => exact absurd first (no_defect _)
    | notTable => rfl
    | repeatedLabel _ repeated =>
      rw [outcome_ofTerms, validate_of_repeated repeated]
      rfl
    | unresolved _ distinct sides' vocabulary resolved refused =>
      rw [sides] at sides'
      cases sides'
      rw [← failure?_eq_some_iff, failure?_ofTerms standard row_wise sides distinct,
        List.findSome?_eq_some_iff]
      exact ⟨_, _, _, vocabulary, refused, resolved⟩

/-- **A frame is refused for the first problem.** -/
theorem build_eq_error_iff (standard : options.evaluator = .ofRegistry registry)
    (row_wise : registry.Rowwise) {v : Node} {e : Failure} :
    (build options v source).outcome = .error e ↔
      FirstProblem registry options.settings v source e := by
  unfold build
  rw [Journal.outcome_bind]
  cases built : (TermsTable.ofFormula v).outcome with
  | ok terms =>
    obtain ⟨left, right, rfl, sides⟩ := TermsTable.ofFormula_eq_ok built
    exact ofTerms_eq_error_iff standard row_wise sides
  | error d =>
    constructor
    · rintro ⟨⟩
      rcases TermsTable.outcome_ofFormula_eq_error_iff.1 built with
        ⟨other, rfl⟩ | ⟨left, right, node, rfl, first, rfl⟩
      · exact .notFormula other
      · exact .malformed first
    · intro problem
      -- A problem that is met later would mean that the formula is sound.
      have unsound : ∀ left right, v = .formula left right → ¬ Sound left right := by
        rintro left right rfl sound
        obtain ⟨terms, sides⟩ := sound_iff.1 sound
        rw [TermsTable.outcome_ofFormula, sides] at built
        cases built
      suffices refused : (TermsTable.ofFormula v).outcome = .error e by
        rw [built] at refused
        cases refused
        rfl
      cases problem with
      | notFormula other => exact TermsTable.outcome_ofFormula_eq_error_iff.2 (.inl ⟨other, rfl⟩)
      | malformed first =>
        exact TermsTable.outcome_ofFormula_eq_error_iff.2 (.inr ⟨_, _, _, rfl, first, rfl⟩)
      | notTable sound => exact absurd sound (unsound _ _ rfl)
      | repeatedLabel sound _ => exact absurd sound (unsound _ _ rfl)
      | unresolved sound => exact absurd sound (unsound _ _ rfl)

/-- A frame is built exactly where no problem is met. -/
theorem exists_build_iff (standard : options.evaluator = .ofRegistry registry)
    (row_wise : registry.Rowwise) {v : Node} :
    (∃ frame, (build options v source).outcome = .ok frame) ↔
      ∃ left right t terms, v = .formula left right ∧ source = .table t ∧ Sound left right ∧
        (t.labels.Pairwise fun a b => a.sameLabel b = false) ∧
        TermsTable.build left right = .ok terms ∧
        ∀ node ∈ terms.vocabulary, resolutionFailure? registry options.settings t node = none := by
  constructor
  · rintro ⟨frame, built⟩
    obtain ⟨left, right, terms, rfl, sides, made⟩ := build_eq_ok built
    obtain ⟨t, columns, rfl, -, -⟩ := ofTerms_eq_ok made
    have none_met : ∀ e,
        ¬ FirstProblem registry options.settings (.formula left right) (.table t) e := by
      intro e problem
      rw [(build_eq_error_iff standard row_wise).2 problem] at built
      cases built
    have sound : Sound left right := sound_iff.2 ⟨terms, sides⟩
    have distinct : t.labels.Pairwise fun a b => a.sameLabel b = false :=
      Decidable.byContradiction fun repeated => none_met _ (.repeatedLabel sound repeated)
    refine ⟨left, right, t, terms, rfl, rfl, sound, distinct, sides, ?_⟩
    rw [← List.findSome?_eq_none_iff, ← failure?_ofTerms standard row_wise sides distinct,
      failure?_eq_none_iff]
    exact ⟨frame, made⟩
  · rintro ⟨left, right, t, terms, rfl, rfl, -, distinct, sides, resolved⟩
    rw [← List.findSome?_eq_none_iff, ← failure?_ofTerms standard row_wise sides distinct,
      failure?_eq_none_iff] at resolved
    obtain ⟨frame, made⟩ := resolved
    refine ⟨frame, Journal.outcome_bind_eq_ok.2 ⟨terms, ?_, made⟩⟩
    rw [TermsTable.outcome_ofFormula, sides]

/-- **When building a frame fails, and how.**  With the standard functions, building the frame of a
value given as a formula and of a value given as data fails for the first of these problems: the
formula is malformed, the data are no table or have a repeated label, an evaluation term has no
column, the terms being tried in the order of the vocabulary.  Else a frame is built, whatever rows
are dropped and whatever levels vanish with them.  A table of terms in place of its formula makes no
difference. -/
theorem fails_iff_firstProblem {s : Session} (by_default : s.settings.logging = {})
    (standard : options.evaluator = .ofRegistry .standard) (v : Node) (source : Source) :
    (∀ e, s.result (build options v source) = .error e ↔
      FirstProblem .standard options.settings v source e) ∧
    ((∃ frame, s.result (build options v source) = .ok frame) ↔
      ∃ left right t terms, v = .formula left right ∧ source = .table t ∧ Sound left right ∧
        (t.labels.Pairwise fun a b => a.sameLabel b = false) ∧
        TermsTable.build left right = .ok terms ∧
        ∀ node ∈ terms.vocabulary, resolutionFailure? .standard options.settings t node = none) ∧
    ∀ left right terms, v = .formula left right → TermsTable.build left right = .ok terms →
      s.result (ofTerms options terms source) = s.result (build options v source) := by
  simp only [Session.result_of_default by_default]
  refine ⟨fun e => build_eq_error_iff standard Registry.rowwise_standard,
    exists_build_iff standard Registry.rowwise_standard, ?_⟩
  rintro left right terms rfl sides
  unfold build
  rw [Journal.outcome_bind, TermsTable.outcome_ofFormula, sides]
  rfl

/-- A table with a column of texts; its second row is incomplete. -/
def notedScores : Table where
  columns :=
    [(.text "y", .doubles [1.0, 0.0 / 0.0, 3.0]),
      (.text "g", .objects [.text "b", .null, .text "a"])]
  index := [.int 0, .int 1, .int 2]
  length_eq := by decide

/-- The interaction `g&log(z)&w`. -/
def pendingInteraction : Node := .app "&" [.var "g", .app "log" [.var "z"], .var "w"]

/-- Of the two columns that are missing the one that is logarithmized is reported, unless texts are
not to become factors: then the column of texts comes first.  Of `y ~ g` there is a frame, and a
malformed formula is reported even if there is no table. -/
theorem fails_iff_firstProblem_notedScores :
    ({} : Session).result (build {} (.formula (some (.var "y")) pendingInteraction)
      (.table notedScores)) =
      .error (.missingColumn (.text "z") [.text "y", .text "g"]) ∧
    ({} : Session).result (build { settings := { textsAsFactors := false } }
      (.formula (some (.var "y")) pendingInteraction) (.table notedScores)) =
      .error (Column.notNumeric "g" "object") ∧
    (∃ frame, ({} : Session).result (build {} (.formula (some (.var "y")) (.var "g"))
      (.table notedScores)) = .ok frame) ∧
    ({} : Session).result (build {} (.formula none (.app "*" [.var "y"])) (.value .null)) =
      .error (.malformed (.app "*" [.var "y"]) "product of at least two operands") := by
  have sound : Sound (some (.var "y")) pendingInteraction := by decide
  have distinct : notedScores.labels.Pairwise fun a b => a.sameLabel b = false := by decide
  obtain ⟨terms, sides, vocabulary⟩ : ∃ terms,
      TermsTable.build (some (.var "y")) pendingInteraction = .ok terms ∧
        terms.vocabulary = [.var "y", .var "g", .app "log" [.var "z"], .var "w"] :=
    map_eq_ok.1 (by decide +kernel : TermsTable.vocabulary <$> _ = _)
  obtain ⟨plain, plain_sides, plain_vocabulary⟩ : ∃ terms,
      TermsTable.build (some (.var "y")) (.var "g") = .ok terms ∧
        terms.vocabulary = [.var "y", .var "g"] :=
    map_eq_ok.1 (by decide +kernel : TermsTable.vocabulary <$> _ = _)
  have refused := @fails_iff_firstProblem {} {} rfl rfl
  have refused_texts := @fails_iff_firstProblem
    { settings := { textsAsFactors := false } } {} rfl rfl
  refine ⟨((refused _ _).1 _).2 ?_, ((refused_texts _ _).1 _).2 ?_, (refused _ _).2.1.2 ?_,
    ((refused _ _).1 _).2 (.malformed rfl)⟩
  · have split : terms.vocabulary =
        [.var "y", .var "g"] ++ .app "log" [.var "z"] :: [.var "w"] := vocabulary
    exact .unresolved sound distinct sides split (by decide) (by decide +kernel)
  · have split : terms.vocabulary =
        [.var "y"] ++ .var "g" :: [.app "log" [.var "z"], .var "w"] := vocabulary
    exact .unresolved sound distinct sides split (by decide) rfl
  · refine ⟨_, _, _, plain, rfl, rfl, by decide, distinct, plain_sides, ?_⟩
    rw [plain_vocabulary]
    decide

/-- A table of days, of lists, and of whole numbers that are stored as objects. -/
def diaryTable : Table where
  columns :=
    [(.text "day", .other "datetime64[ns]" [some "2024-01-01", some "2024-01-02"]),
      (.text "visits", .objects [.list [.int 1], .list []]),
      (.text "score", .objects [.int 1, .int 2])]
  index := [.int 0, .int 1]
  length_eq := by decide

/-- No cell of this table is a text.  Nevertheless the days are refused, and so are the lists, which
are to become factors, and the scores, if they are not. -/
theorem result_diaryTable :
    (∀ s, Cell.level (some (.text s)) ∉ diaryTable.columns.flatMap fun c => c.2.cells) ∧
    ({} : Session).result (build {} (.formula none (.var "day")) (.table diaryTable)) =
      .error (Column.notNumeric "day" "datetime64[ns]") ∧
    ({} : Session).result (build {} (.formula none (.var "visits")) (.table diaryTable)) =
      .error .wrongKind ∧
    ({} : Session).result (build { settings := { textsAsFactors := false } }
      (.formula none (.var "score")) (.table diaryTable)) =
      .error (Column.notNumeric "score" "object") := by
  have refused : ∀ (options : Options) (node : Node) (e : Failure),
      failure? (build options node (.table diaryTable)).outcome = some e →
        ({} : Session).result (build options node (.table diaryTable)) = .error e :=
    fun _ _ _ failed => (Session.result_of_default rfl _).trans (failure?_eq_some_iff.1 failed)
  refine ⟨fun s => ?_, refused _ _ _ (by decide +kernel), refused _ _ _ (by decide +kernel),
    refused _ _ _ (by decide +kernel)⟩
  simp [diaryTable, Column.cells, Cell.ofText, Cell.ofObject, Plain.isMissing, Plain.isNaN,
    Level.ofPlain?]

end ModelFrame

end ModelFormula
