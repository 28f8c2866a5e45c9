import ModelFormula.Failure.Report
import ModelFormula.Proofs.Frame.Contents
import ModelFormula.Proofs.Frame.Rows
import ModelFormula.Proofs.Variables

/-!
# Variables of a formula and columns of its table

A frame is made of the columns that the variables of its formula name.  It needs all of them, and it
looks at no other.

* `Node.columnsOf_of_evaluate` — an expression has a value only if all its symbols are columns.
* `ModelFrame.exists_vars` — the variables of a formula are the symbols of its evaluation terms, and
  columns of every table that it has a frame of.
* `Alike` — two computations give one result or one failure, but for the list of the columns that
  there are; `Report.SameButListing` — what that means for the reports, `Alike.reports`.
* `Node.evaluate_alike`, `ModelFrame.resolve_alike`, `ModelFrame.ofTerms_alike` — on two tables that
  agree on the symbols, the steps of building a frame are alike.
* `ModelFrame.build_alike` — so are the frames of a formula on tables that agree on its variables.
-/

set_option autoImplicit false

namespace ModelFormula

variable {registry : Registry} {t u : Table}

/-! ## Symbols that are columns -/

theorem Table.columnsOf_of_column {name : Plain} {c : Column} (h : t.column name = .ok c) :
    t.columnsOf name = [c] := by
  unfold column at h
  split at h
  · split at h
    · cases h
    · rename_i d only
      cases h
      exact only
    · cases h
  · cases h

namespace Node

mutual
/-- **An expression has a value only if all its symbols are columns.** -/
theorem columnsOf_of_evaluate : ∀ (node : Node) (v : Value),
    node.evaluate registry (.table t) = .ok v →
      ∀ name ∈ node.symbols, ∃ column, t.columnsOf name = [column]
  | .symbol name, v, h => by
    intro other ho
    rw [List.mem_singleton.1 ho]
    obtain ⟨column, found, -⟩ := bind_eq_ok.1 h
    exact ⟨column, Table.columnsOf_of_column found⟩
  | .literal _, _, _ => by simp [symbols]
  | .call op args, v, h => by
    rw [evaluate_call] at h
    obtain ⟨values, evaluated, -⟩ := bind_eq_ok.1 h
    exact columnsOf_of_evaluateAll args values evaluated
  | .formula _ _, _, h => by cases h
  | .plain _, _, h => by cases h
theorem columnsOf_of_evaluateAll : ∀ (nodes : List Node) (vs : List Value),
    evaluateAll registry (.table t) nodes = .ok vs →
      ∀ name ∈ symbolsOf nodes, ∃ column, t.columnsOf name = [column]
  | [], _, _ => by simp [symbolsOf]
  | node :: nodes, vs, h => by
    rw [evaluateAll_cons] at h
    obtain ⟨first, value, h⟩ := bind_eq_ok.1 h
    obtain ⟨rest, values, -⟩ := bind_eq_ok.1 h
    intro name hn
    rcases List.mem_append.1 hn with hn | hn
    · exact columnsOf_of_evaluate node first value name hn
    · exact columnsOf_of_evaluateAll nodes rest values name hn
end

end Node

namespace ModelFrame

variable {options : Options}

/-- What an evaluation term stands for is made of columns. -/
theorem columnsOf_of_sourceColumn (standard : options.evaluator = .ofRegistry registry) {node : Node}
    {source : Column} (h : sourceColumn options t node = .ok source) :
    ∀ name ∈ node.symbols, ∃ column, t.columnsOf name = [column] := by
  have evaluated : (options.evaluator node t).outcome = .ok source →
      ∀ name ∈ node.symbols, ∃ column, t.columnsOf name = [column] := by
    intro done
    rw [standard] at done
    have done : (Column.doubles <$> evaluateColumn registry node (.table t)).outcome = .ok source :=
      done
    rw [Journal.outcome_map] at done
    obtain ⟨xs, numbers, -⟩ := map_eq_ok.1 done
    obtain ⟨v, value, -⟩ := Journal.outcome_bind_eq_ok.1 numbers
    exact Node.columnsOf_of_evaluate node v value
  cases node with
  | symbol name =>
    intro other ho
    rw [List.mem_singleton.1 ho]
    exact ⟨source, Table.columnsOf_of_column h⟩
  | _ => exact evaluated h

/-- **No variable is lost or invented.**  The variables of a formula are its symbols, each listed
where it occurs first, and the symbols of its evaluation terms.  In a table that it has a frame of,
each of them is a column. -/
theorem exists_vars {left : Option Node} {right : Node}
    (hl : ∀ node, left = some node → node.wellFormed = true) (hr : right.wellFormed = true) :
    ∃ names terms, (Node.formula left right).vars = .ok names ∧
      AreFirsts (fun a b => decide (a = b)) (Node.formula left right).symbols names ∧
      names.Nodup ∧ (∀ name, name ∈ names ↔ name ∈ (Node.formula left right).symbols) ∧
      (TermsTable.ofFormula (.formula left right)).outcome = .ok terms ∧
      (∀ name, name ∈ names ↔ ∃ node ∈ terms.vocabulary, name ∈ node.symbols) ∧
      ∀ (options : Options) (registry : Registry) (source : Source) (frame : ModelFrame),
        options.evaluator = .ofRegistry registry →
        (build options (.formula left right) source).outcome = .ok frame →
          ∃ table, source = .table table ∧
            ∀ name ∈ names, ∃ column, table.columnsOf name = [column] := by
  obtain ⟨names, listed, first, once, all⟩ := Node.exists_vars_formula hl hr
  obtain ⟨x, -, sides⟩ := TermsTable.build_of_wellFormed hl hr
  have vocabulary := TermsTable.mem_symbols_vocabulary_iff sides
  refine ⟨names, _, listed, first, once, all, (TermsTable.outcome_ofFormula left right).trans sides,
    fun name => (all name).trans (vocabulary name).symm, ?_⟩
  intro options registry source frame standard built
  obtain ⟨left', right', terms, same, sides', made⟩ := build_eq_ok built
  cases same
  rw [sides] at sides'
  cases sides'
  obtain ⟨table, columns, rfl, resolved, -⟩ := ofTerms_eq_ok made
  refine ⟨table, rfl, fun name hn => ?_⟩
  obtain ⟨node, mem, here⟩ := (vocabulary name).2 ((all name).1 hn)
  obtain ⟨c, -, -, origin, held⟩ := exists_of_forall₂ (resolveAll_eq_ok resolved) mem
  exact columnsOf_of_sourceColumn standard held.source_eq name here

/-- The left-hand side `I(y - a)`. -/
def gain : Node := .app "I" [.app "-" [.var "y", .var "a"]]

/-- The right-hand side `g&(b + I(x + 2)) + 0`. -/
def growth : Node :=
  .app "+" [.app "&" [.var "g", .app "+" [.var "b",
    .app "I" [.app "+" [.var "x", .literal (.int 2)]]]], .literal (.int 0)]

/-- The columns of `gain ~ growth`; the second row is not complete. -/
def growthTable : Table where
  columns :=
    [(.text "a", .doubles [1.0, 2.0, 3.0]), (.text "b", .ints [some 4, some 5, some 6]),
      (.text "g", .factor (.code [.text "u", .text "v"] (by decide) false
        [some (.text "u"), some (.text "v"), some (.text "u")])),
      (.text "x", .doubles [0.5, 0.0 / 0.0, 2.0]), (.text "y", .doubles [2.0, 4.0, 8.0])]
  index := [.text "i", .text "j", .text "k"]
  length_eq := by decide

theorem wellFormed_gain : ∀ node, some gain = some node → node.wellFormed = true := by
  intro node same
  cases same
  decide

theorem exists_vars_growthTable : ∃ names frame,
    (Node.formula (some gain) growth).vars = .ok names ∧
    names = [.text "g", .text "b", .text "x", .text "y", .text "a"] ∧
    (build {} (.formula (some gain) growth) (.table growthTable)).outcome = .ok frame ∧
    ∀ name ∈ names, ∃ column, growthTable.columnsOf name = [column] := by
  have kept : retained <$> (build {} (.formula (some gain) growth) (.table growthTable)).outcome =
      .ok [true, false, true] := by
    decide +kernel
  obtain ⟨frame, built, -⟩ := map_eq_ok.1 kept
  obtain ⟨names, terms, listed, -, -, -, -, -, columns⟩ :=
    exists_vars wellFormed_gain (by decide : growth.wellFormed = true)
  obtain ⟨table, same, found⟩ := columns {} .standard _ frame rfl built
  cases same
  have listed' : (Node.formula (some gain) growth).vars =
      .ok [.text "g", .text "b", .text "x", .text "y", .text "a"] := by
    decide +kernel
  refine ⟨names, frame, listed, ?_, built, found⟩
  rw [listed] at listed'
  exact Except.ok.inj listed'

end ModelFrame

/-! ## Computations on two tables -/

/-- Two computations give one result, or they fail for one reason.  Where this is that a column is
missing, each lists the columns that there are. -/
inductive Alike {α : Type} (listed others : List Plain) :
    Except Failure α → Except Failure α → Prop where
  | ok (a : α) : Alike listed others (.ok a) (.ok a)
  | error (e : Failure) : Alike listed others (.error e) (.error e)
  | missing (name : Plain) :
    Alike listed others (.error (.missingColumn name listed)) (.error (.missingColumn name others))

namespace Alike

variable {α β : Type} {listed others : List Plain}

theorem refl (x : Except Failure α) : Alike listed others x x := by
  cases x with
  | ok a => exact .ok a
  | error e => exact .error e

theorem bind {x y : Except Failure α} {f g : α → Except Failure β} (h : Alike listed others x y)
    (next : ∀ a, Alike listed others (f a) (g a)) : Alike listed others (x >>= f) (y >>= g) := by
  cases h with
  | ok a => exact next a
  | error e => exact .error e
  | missing name => exact .missing name

theorem map (f : α → β) {x y : Except Failure α} (h : Alike listed others x y) :
    Alike listed others (f <$> x) (f <$> y) := by
  cases h with
  | ok a => exact .ok (f a)
  | error e => exact .error e
  | missing name => exact .missing name

theorem eq_ok {x y : Except Failure α} {a : α} (h : Alike listed others x y) (ok : x = .ok a) :
    y = .ok a := by
  cases h with
  | ok b => exact ok
  | error e => cases ok
  | missing name => cases ok

end Alike

/-! ## Reports of two tables -/

namespace Report

/-- Columns as a text lists them. -/
def listing (labels : List Plain) : String := ", ".intercalate (labels.map Plain.asText)

/-- Two reports are the same but for the columns that they list, at one place of the text and at one
place of the context. -/
structure SameButListing (listed others : List Plain) (r s : Report) : Prop where
  problem : r.problem = s.problem
  message : r.message = s.message
  link : r.link = s.link
  code : r.code = s.code
  order : r.order = s.order
  text : ∃ before after, r.text = before ++ listing listed ++ after ∧
    s.text = before ++ listing others ++ after
  context : ∃ before after, r.context = before ++ ("available_columns", .list listed) :: after ∧
    s.context = before ++ ("available_columns", .list others) :: after

/-- The text of a report that lists columns first among its suggestions. -/
theorem text_of_listing {r : Report} {labels rest : List Plain}
    (h : r.suggestions = .text ("Available columns: " ++ listing labels) :: rest) :
    r.text = (if r.code.truthy then "[" ++ r.code.asText ++ "] " ++ r.message else r.message) ++
      "\n\nSuggestions:\n  1. Available columns: " ++ listing labels ++
        (numbered 2 rest ++
          if r.link.truthy then "\n\nDocumentation: " ++ r.link.asText else "") := by
  have start : "\n\nSuggestions:\n  1. Available columns: " =
      "\n\nSuggestions:" ++ ("\n  " ++ (toString 1 ++ (". " ++ "Available columns: "))) := by decide
  have regrouped : ∀ head a b c d e list rest link : String,
      head ++ (a ++ (b ++ c ++ d ++ (e ++ list) ++ rest)) ++ link =
        head ++ (a ++ (b ++ (c ++ (d ++ e)))) ++ list ++ (rest ++ link) := by
    intro head a b c d e list rest link
    simp only [String.append_assoc]
  unfold text
  rw [h, start]
  exact regrouped _ _ _ _ _ _ _ _ _

end Report

/-- The reports of one missing column differ in the columns that they list. -/
theorem Failure.reports_missingColumn (name : Plain) (listed others : List Plain) :
    ∃ r s, (Failure.missingColumn name listed).report? = some r ∧
      (Failure.missingColumn name others).report? = some s ∧
      Report.SameButListing listed others r s := by
  refine ⟨_, _, rfl, rfl, rfl, rfl, rfl, rfl, rfl, ?_, ?_⟩
  · exact ⟨_, _, Report.text_of_listing rfl, Report.text_of_listing rfl⟩
  · exact ⟨[("specific_issue", .null), ("missing_columns", .list [name])], [], rfl, rfl⟩

theorem Alike.reports {α : Type} {listed others : List Plain} {x y : Except Failure α}
    {e e' : Failure} (h : Alike listed others x y) (failed : x = .error e) (failed' : y = .error e') :
    e = e' ∨ ∃ r s, e.report? = some r ∧ e'.report? = some s ∧
      Report.SameButListing listed others r s := by
  cases h with
  | ok a => cases failed
  | error d =>
    cases failed
    cases failed'
    exact Or.inl rfl
  | missing name =>
    cases failed
    cases failed'
    exact Or.inr (Failure.reports_missingColumn name listed others)

/-! ## Evaluation on two tables -/

theorem Table.column_alike {name : Plain} (h : t.columnsOf name = u.columnsOf name) :
    Alike t.labels u.labels (t.column name) (u.column name) := by
  unfold column
  rw [h]
  split
  · split
    · exact .missing name
    · exact .refl _
    · exact .refl _
  · exact .refl _

namespace Node

mutual
/-- **The value of an expression depends on the columns of its symbols alone.** -/
theorem evaluate_alike : ∀ node : Node,
    (∀ name ∈ node.symbols, t.columnsOf name = u.columnsOf name) →
      Alike t.labels u.labels (node.evaluate registry (.table t)) (node.evaluate registry (.table u))
  | .symbol name, same => by
    have column := Table.column_alike (same name List.mem_cons_self)
    exact column.bind fun c => .refl _
  | .literal value, _ => .refl _
  | .call op args, same => by
    rw [evaluate_call, evaluate_call]
    exact (evaluateAll_alike args same).bind fun values => .refl _
  | .formula _ _, _ => .refl _
  | .plain _, _ => .refl _
theorem evaluateAll_alike : ∀ nodes : List Node,
    (∀ name ∈ symbolsOf nodes, t.columnsOf name = u.columnsOf name) →
      Alike t.labels u.labels (evaluateAll registry (.table t) nodes)
        (evaluateAll registry (.table u) nodes)
  | [], _ => .refl _
  | node :: nodes, same => by
    have head := evaluate_alike node fun name hn => same name (List.mem_append_left _ hn)
    have tail := evaluateAll_alike nodes fun name hn => same name (List.mem_append_right _ hn)
    rw [evaluateAll_cons, evaluateAll_cons]
    exact head.bind fun v => tail.bind fun vs => .refl _
end

end Node

theorem spreadOverRows_congr (rows : t.rows = u.rows) (node : Node) (v : Value) :
    spreadOverRows node (.table t) v = spreadOverRows node (.table u) v := by
  unfold spreadOverRows
  simp only [Source.rows, rows]

theorem evaluateColumn_alike (rows : t.rows = u.rows) {node : Node}
    (same : ∀ name ∈ node.symbols, t.columnsOf name = u.columnsOf name) :
    Alike t.labels u.labels (evaluateColumn registry node (.table t)).outcome
      (evaluateColumn registry node (.table u)).outcome := by
  unfold evaluateColumn
  rw [Journal.outcome_bind, Journal.outcome_bind]
  apply (Node.evaluate_alike node same).bind
  intro v
  rw [spreadOverRows_congr rows]
  exact .refl _

/-! ## Frames of two tables -/

namespace ModelFrame

variable {options : Options}

/-- Two tables have the same rows, and one column or none for each of some names. -/
structure AgreeOn (names : List Plain) (t u : Table) : Prop where
  index : t.index = u.index
  columns : ∀ name ∈ names, t.columnsOf name = u.columnsOf name

theorem AgreeOn.rows {names : List Plain} (h : AgreeOn names t u) : t.rows = u.rows :=
  congrArg List.length h.index

theorem evaluator_alike (standard : options.evaluator = .ofRegistry registry) {node : Node}
    (agree : AgreeOn node.symbols t u) :
    Alike t.labels u.labels (options.evaluator node t).outcome (options.evaluator node u).outcome := by
  rw [standard]
  show Alike t.labels u.labels (Column.doubles <$> evaluateColumn registry node (.table t)).outcome
    (Column.doubles <$> evaluateColumn registry node (.table u)).outcome
  rw [Journal.outcome_map, Journal.outcome_map]
  exact (evaluateColumn_alike agree.rows agree.columns).map _

theorem resolve_alike (standard : options.evaluator = .ofRegistry registry) {node : Node}
    (agree : AgreeOn node.symbols t u) :
    Alike t.labels u.labels (resolve options t node).outcome (resolve options u node).outcome := by
  have evaluated := evaluator_alike standard agree
  cases node with
  | symbol name =>
    unfold resolve
    rw [Journal.outcome_bind, Journal.outcome_bind]
    have column := Table.column_alike (agree.columns name List.mem_cons_self)
    exact column.bind fun c => .refl _
  | _ =>
    unfold resolve
    rw [Journal.outcome_bind, Journal.outcome_bind, agree.rows]
    exact evaluated.bind fun c => .refl _

theorem resolveAll_alike (standard : options.evaluator = .ofRegistry registry) {nodes : List Node}
    (agree : AgreeOn (Node.symbolsOf nodes) t u) :
    Alike t.labels u.labels (resolveAll options t nodes).outcome
      (resolveAll options u nodes).outcome := by
  induction nodes with
  | nil => exact .refl _
  | cons node nodes ih =>
    have head := resolve_alike standard
      ⟨agree.index, fun name hn => agree.columns name (List.mem_append_left _ hn)⟩
    have tail := ih ⟨agree.index, fun name hn => agree.columns name (List.mem_append_right _ hn)⟩
    unfold resolveAll
    rw [Journal.outcome_bind, Journal.outcome_bind]
    apply head.bind
    intro column
    rw [Journal.outcome_bind, Journal.outcome_bind]
    exact tail.bind fun columns => .refl _

theorem validate_of_distinct (distinct : t.labels.Pairwise fun a b => a.sameLabel b = false)
    (name : String) : (Source.table t).validate name = .ok t := by
  have none_repeated : t.repeatedLabels = [] := repeats_eq_nil distinct
  unfold Source.validate
  simp [none_repeated]

theorem ofTerms_alike (standard : options.evaluator = .ofRegistry registry)
    (distinct : t.labels.Pairwise fun a b => a.sameLabel b = false)
    (distinct' : u.labels.Pairwise fun a b => a.sameLabel b = false) {terms : TermsTable}
    (agree : AgreeOn (Node.symbolsOf terms.vocabulary) t u) :
    Alike t.labels u.labels (ofTerms options terms (.table t)).outcome
      (ofTerms options terms (.table u)).outcome := by
  rw [outcome_ofTerms, outcome_ofTerms, validate_of_distinct distinct,
    validate_of_distinct distinct']
  show Alike t.labels u.labels ((resolveAll options t terms.vocabulary).outcome >>= _)
    ((resolveAll options u terms.vocabulary).outcome >>= _)
  apply (resolveAll_alike standard agree).bind
  intro columns
  rw [agree.index]
  exact .refl _

/-- **Columns that a formula does not mention do not matter.**  On tables with the same rows that
agree on the variables, building gives one frame or fails for one reason, with one report but for the
list of the columns that there are. -/
theorem build_alike {left : Option Node} {right : Node}
    (hl : ∀ node, left = some node → node.wellFormed = true) (hr : right.wellFormed = true)
    {names : List Plain} (mentioned : (Node.formula left right).vars = .ok names)
    (standard : options.evaluator = .ofRegistry registry)
    (distinct : t.labels.Pairwise fun a b => a.sameLabel b = false)
    (distinct' : u.labels.Pairwise fun a b => a.sameLabel b = false) (agree : AgreeOn names t u) :
    Alike t.labels u.labels (build options (.formula left right) (.table t)).outcome
        (build options (.formula left right) (.table u)).outcome ∧
      ∀ e e', (build options (.formula left right) (.table t)).outcome = .error e →
        (build options (.formula left right) (.table u)).outcome = .error e' →
          e = e' ∨ ∃ r s, e.report? = some r ∧ e'.report? = some s ∧
            Report.SameButListing t.labels u.labels r s := by
  have alike : Alike t.labels u.labels (build options (.formula left right) (.table t)).outcome
      (build options (.formula left right) (.table u)).outcome := by
    unfold build
    rw [Journal.outcome_bind, Journal.outcome_bind]
    obtain ⟨x, -, sides⟩ := TermsTable.build_of_wellFormed hl hr
    rw [TermsTable.outcome_ofFormula, sides]
    apply ofTerms_alike standard distinct distinct'
    refine ⟨agree.index, fun name hn => agree.columns name ?_⟩
    -- Every symbol of an evaluation term is a variable of the formula.
    obtain ⟨listed, same, -, -, all⟩ := Node.exists_vars_formula hl hr
    rw [mentioned] at same
    cases same
    exact (all name).2
      ((TermsTable.mem_symbols_vocabulary_iff sides name).1 (Node.mem_symbolsOf_iff.1 hn))
  exact ⟨alike, fun e e' => alike.reports⟩

/-- The columns of `growthTable` in another order, with a column that has no entry at all. -/
def notedTable : Table where
  columns :=
    [(.text "y", .doubles [2.0, 4.0, 8.0]), (.text "note", .objects [.null, .null, .null]),
      (.text "g", .factor (.code [.text "u", .text "v"] (by decide) false
        [some (.text "u"), some (.text "v"), some (.text "u")])),
      (.text "x", .doubles [0.5, 0.0 / 0.0, 2.0]), (.text "b", .ints [some 4, some 5, some 6]),
      (.text "a", .doubles [1.0, 2.0, 3.0])]
  index := [.text "i", .text "j", .text "k"]
  length_eq := by decide

theorem build_alike_notedTable : ∃ frame,
    (build {} (.formula (some gain) growth) (.table growthTable)).outcome = .ok frame ∧
    (build {} (.formula (some gain) growth) (.table notedTable)).outcome = .ok frame ∧
    frame.retained = [true, false, true] := by
  have kept : retained <$> (build {} (.formula (some gain) growth) (.table growthTable)).outcome =
      .ok [true, false, true] := by
    decide +kernel
  obtain ⟨frame, built, kept⟩ := map_eq_ok.1 kept
  have mentioned : (Node.formula (some gain) growth).vars =
      .ok [.text "g", .text "b", .text "x", .text "y", .text "a"] := by
    decide +kernel
  have agree : AgreeOn [.text "g", .text "b", .text "x", .text "y", .text "a"] growthTable
      notedTable := by
    refine ⟨rfl, fun name hn => ?_⟩
    simp only [List.mem_cons, List.not_mem_nil, or_false] at hn
    rcases hn with rfl | rfl | rfl | rfl | rfl <;> rfl
  have standard : ({} : Options).evaluator = .ofRegistry .standard := rfl
  have alike := (build_alike wellFormed_gain (by decide : growth.wellFormed = true) mentioned standard
    (by decide) (by decide) agree).1
  exact ⟨frame, built, alike.eq_ok built, kept⟩

end ModelFrame

end ModelFormula
