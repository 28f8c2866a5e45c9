import ModelFormula.Evaluation
import ModelFormula.Proofs.Dictionary
import ModelFormula.Proofs.Outcome
import ModelFormula.Proofs.Rows
import ModelFormula.Proofs.Terms

/-!
# Row-wise evaluation

Evaluating an expression row by row does not look across rows, so it commutes with the selection of
rows.

* `Value.Rowwise` — a single number, or one number for each row.
* `Selects` — a computation on some rows gives what the one on all rows has there, or fails like it.
* `Registry.Rowwise` — all functions work row by row; `Registry.rowwise_standard` — the standard ones
  do.
* `Node.evaluate_call`, `Node.evaluateAll_cons` — evaluation step by step.
* `Node.evaluate_select` — the value of an expression on some rows.
* `outcome_evaluateColumn`, `evaluateColumn_select` — the same for the column of an expression.
* `evaluateColumn_rows` — the same row by row, for the standard functions.
-/

set_option autoImplicit false

namespace ModelFormula

variable {n : Nat} {positions : List Nat}

namespace Value

/-- A single number, or one number for each of `n` rows. -/
inductive Rowwise (n : Nat) : Value → Prop where
  | scalar (x : Float) : Rowwise n (.scalar x)
  | vector {xs : List Float} (length : xs.length = n) : Rowwise n (.vector xs)

/-- The value in the rows at some positions. -/
def select (positions : List Nat) : Value → Value
  | .scalar x => .scalar x
  | .vector xs => .vector (ModelFormula.select positions xs)
  | .grid width rows => .grid width (ModelFormula.select positions rows)

theorem rowwise_map (f : Float → Float) {v : Value} (h : v.Rowwise n) : (v.map f).Rowwise n := by
  cases h with
  | scalar x => exact .scalar (f x)
  | vector length => exact .vector (by rw [List.length_map, length])

theorem select_map (f : Float → Float) {v : Value} (h : v.Rowwise n) :
    (v.select positions).map f = (v.map f).select positions := by
  cases h with
  | scalar x => rfl
  | vector length => simp only [select, map, ModelFormula.select_map]

end Value

/-! ## Computations on some rows -/

/-- On `n` rows a computation gives a row-wise value, and on the rows at some positions it gives what
this value has there; if one fails, both do, for one reason. -/
structure Selects (n : Nat) (positions : List Nat) (whole part : Except Failure Value) : Prop where
  rowwise : ∀ v, whole = .ok v → v.Rowwise n
  part_eq : part = Value.select positions <$> whole

namespace Selects

theorem ok {v : Value} (h : v.Rowwise n) :
    Selects n positions (.ok v) (.ok (v.select positions)) :=
  ⟨fun w same => (by cases same; exact h), rfl⟩

theorem error (e : Failure) : Selects n positions (.error e) (.error e) :=
  ⟨fun w same => (by cases same), rfl⟩

/-- One computation after the other. -/
theorem bind {whole part : Except Failure Value} {f g : Value → Except Failure Value}
    (h : Selects n positions whole part)
    (next : ∀ v, v.Rowwise n → Selects n positions (f v) (g (v.select positions))) :
    Selects n positions (whole >>= f) (part >>= g) := by
  obtain ⟨rowwise, rfl⟩ := h
  cases whole with
  | error e => exact error e
  | ok v => exact next v (rowwise v rfl)

end Selects

/-! ## Arithmetic -/

namespace Value

/-- Two row-wise values are combined row by row. -/
theorem selects_combine (f : Float → Float → Float) {a b : Value} (ha : a.Rowwise n)
    (hb : b.Rowwise n) :
    Selects n positions (combine f a b) (combine f (a.select positions) (b.select positions)) := by
  cases ha with
  | scalar x =>
    cases hb with
    | scalar y => exact Selects.ok (.scalar (f x y))
    | @vector ys length =>
      have mapped : combine f (.scalar x) (.vector (ModelFormula.select positions ys)) =
          .ok (.vector (ModelFormula.select positions (ys.map (f x)))) := by
        rw [ModelFormula.select_map]
        rfl
      show Selects n positions _ (combine f (.scalar x) (.vector _))
      rw [mapped]
      exact Selects.ok (.vector (by rw [List.length_map, length]))
  | @vector xs length =>
    cases hb with
    | scalar y =>
      have mapped : combine f (.vector (ModelFormula.select positions xs)) (.scalar y) =
          .ok (.vector (ModelFormula.select positions (xs.map (f · y)))) := by
        rw [ModelFormula.select_map]
        rfl
      show Selects n positions _ (combine f (.vector _) (.scalar y))
      rw [mapped]
      exact Selects.ok (.vector (by rw [List.length_map, length]))
    | @vector ys length' =>
      -- Both have a number for every row, so nothing is stretched, not even a single row.
      have same : xs.length = ys.length := length.trans length'.symm
      have whole : combine f (.vector xs) (.vector ys) = .ok (.vector (List.zipWith f xs ys)) := by
        simp only [combine, stretchWith_of_length_eq f same]
      have part : combine f (.vector (ModelFormula.select positions xs))
          (.vector (ModelFormula.select positions ys)) =
            .ok (.vector (ModelFormula.select positions (List.zipWith f xs ys))) := by
        simp only [combine, stretchWith_of_length_eq f (length_select_congr positions same),
          select_zipWith f positions same]
      show Selects n positions _ (combine f (.vector _) (.vector _))
      rw [whole, part]
      exact Selects.ok (.vector (by rw [List.length_zipWith, same, length', Nat.min_self]))

/-- A row-wise value fills a vector. -/
theorem filled_vector {a : Value} {ys : List Float} (ha : a.Rowwise ys.length) :
    a.filled (.vector ys) = combine (fun x _ => x) a (.vector ys) := by
  cases ha with
  | scalar x => simp [filled, combine, shape, bind, Except.bind, pure, Except.pure]
  | vector length =>
    simp [filled, combine, stretchWith_of_length_eq _ length, shape, length, bind, Except.bind,
      pure, Except.pure]

theorem selects_filled {a b : Value} (ha : a.Rowwise n) (hb : b.Rowwise n) :
    Selects n positions (a.filled b) ((a.select positions).filled (b.select positions)) := by
  have combined : Selects n positions (combine (fun x _ => x) a b)
      (combine (fun x _ => x) (a.select positions) (b.select positions)) :=
    selects_combine _ ha hb
  cases hb with
  | scalar y => exact Selects.error .wrongKind
  | @vector ys length =>
    have part : ((a.select positions).filled (.vector (ModelFormula.select positions ys))) =
        combine (fun x _ => x) (a.select positions) (.vector (ModelFormula.select positions ys)) := by
      refine filled_vector ?_
      cases ha with
      | scalar x => exact .scalar x
      | vector length' =>
        exact .vector (length_select_congr positions (length'.trans length.symm))
    show Selects n positions _ ((a.select positions).filled (.vector _))
    rw [part, filled_vector (length ▸ ha)]
    exact combined

end Value

/-- Folding an operator from the left works row by row. -/
theorem selects_foldlM (f : Float → Float → Float) {first : Value} {values : List Value}
    (h : first.Rowwise n) (hs : ∀ v ∈ values, v.Rowwise n) :
    Selects n positions (values.foldlM (Value.combine f) first)
      ((values.map (Value.select positions)).foldlM (Value.combine f) (first.select positions)) := by
  induction values generalizing first with
  | nil => exact Selects.ok h
  | cons v values ih =>
    rw [List.map_cons, List.foldlM_cons, List.foldlM_cons]
    refine (Value.selects_combine f h (hs v List.mem_cons_self)).bind fun w hw => ?_
    exact ih hw fun u hu => hs u (List.mem_cons_of_mem _ hu)

theorem selects_applyArithmetic (call : Node) (op : Plain) (f : Float → Float → Float)
    {values : List Value} (h : ∀ v ∈ values, v.Rowwise n) :
    Selects n positions (applyArithmetic call op f values)
      (applyArithmetic call op f (values.map (Value.select positions))) := by
  have too_few : Selects n positions (applyArithmetic.tooFew call op)
      (applyArithmetic.tooFew call op) := by
    cases refused : applyArithmetic.tooFew call op with
    | error e => exact Selects.error e
    | ok v =>
      unfold applyArithmetic.tooFew at refused
      obtain ⟨term, -, refused⟩ := bind_eq_ok.1 refused
      cases refused
  match values with
  | [] => exact too_few
  | [v] =>
    have hv := h v List.mem_cons_self
    show Selects n positions (applyArithmetic call op f [v])
      (applyArithmetic call op f [v.select positions])
    simp only [applyArithmetic]
    split
    · exact Selects.ok hv
    · split
      · rw [Value.select_map _ hv]
        exact Selects.ok (Value.rowwise_map _ hv)
      · exact too_few
  | v :: w :: values =>
    exact selects_foldlM f (h v List.mem_cons_self) fun u hu => h u (List.mem_cons_of_mem _ hu)

/-! ## Functions -/

/-- A function that works row by row. -/
def Function.Rowwise (f : Function) : Prop :=
  ∀ (n : Nat) (positions : List Nat) (values : List Value), (∀ v ∈ values, v.Rowwise n) →
    Selects n positions (f values) (f (values.map (Value.select positions)))

theorem Function.rowwise_ofUnary (f : Float → Float) : (Function.ofUnary f).Rowwise := by
  intro n positions values h
  match values with
  | [] => exact Selects.error .wrongKind
  | [v] =>
    have hv := h v List.mem_cons_self
    show Selects n positions (.ok (v.map f)) (.ok ((v.select positions).map f))
    rw [Value.select_map f hv]
    exact Selects.ok (Value.rowwise_map f hv)
  | [v, w] =>
    have hv := h v List.mem_cons_self
    have hw := h w (List.mem_cons_of_mem _ List.mem_cons_self)
    show Selects n positions ((v.map f).filled w)
      (((v.select positions).map f).filled (w.select positions))
    rw [Value.select_map f hv]
    exact Value.selects_filled (Value.rowwise_map f hv) hw
  | _ :: _ :: _ :: _ => exact Selects.error .wrongKind

theorem Function.rowwise_identity : Function.identity.Rowwise := by
  intro n positions values h
  match values with
  | [] => exact Selects.error .wrongKind
  | [v] => exact Selects.ok (h v List.mem_cons_self)
  | _ :: _ :: _ => exact Selects.error .wrongKind

namespace Registry

/-- All functions work row by row. -/
def Rowwise (registry : Registry) : Prop :=
  ∀ (op : Plain) (f : Function), registry.find? op = some f → f.Rowwise

/-- A standard function gives its argument back or is a function of one number. -/
theorem standard_cases {op : Plain} {f : Function} (found : standard.find? op = some f) :
    f = Function.identity ∨ ∃ g, f = Function.ofUnary g := by
  cases op with
  | text name =>
    have mem : (name, f) ∈ standard := Dictionary.mem_of_get? found
    simp only [standard, List.mem_cons, Prod.mk.injEq, List.not_mem_nil, or_false] at mem
    rcases mem with ⟨-, rfl⟩ | mem
    · exact .inl rfl
    · rcases mem with ⟨-, rfl⟩ | ⟨-, rfl⟩ | ⟨-, rfl⟩ | ⟨-, rfl⟩ | ⟨-, rfl⟩ | ⟨-, rfl⟩ | ⟨-, rfl⟩ |
          ⟨-, rfl⟩ | ⟨-, rfl⟩ <;>
        exact .inr ⟨_, rfl⟩
  | _ => cases found

/-- The standard functions work row by row. -/
theorem rowwise_standard : Rowwise standard := by
  intro op f found
  rcases standard_cases found with rfl | ⟨g, rfl⟩
  · exact Function.rowwise_identity
  · exact Function.rowwise_ofUnary g

end Registry

variable {registry : Registry}

theorem selects_applyCall (row_wise : registry.Rowwise) (call : Node) (op : Plain)
    {values : List Value} (h : ∀ v ∈ values, v.Rowwise n) :
    Selects n positions (applyCall registry call op values)
      (applyCall registry call op (values.map (Value.select positions))) := by
  unfold applyCall
  split
  · exact Selects.error .wrongKind
  · split
    · exact selects_applyArithmetic call op _ h
    · unfold applyFunction
      split
      · rename_i f found
        exact row_wise op f found n positions values h
      · cases call.render with
        | error e => exact Selects.error e
        | ok term => exact Selects.error _

/-! ## Columns -/

/-- The columns of a name in a selection of rows. -/
theorem Table.column_select (positions : List Nat) (t : Table) (name : Plain) :
    (t.select positions).column name = Column.select positions <$> t.column name := by
  have columns : (t.select positions).columnsOf name =
      (t.columnsOf name).map (Column.select positions) := by
    unfold columnsOf select
    rw [List.filter_map, List.map_map, List.map_map]
    rfl
  unfold column
  rw [columns, labels_select]
  split
  · rcases t.columnsOf name with _ | ⟨c, _ | ⟨d, rest⟩⟩ <;> rfl
  · rfl

namespace Column

/-- The doubles of a column in a selection of rows. -/
theorem numbers_select (positions : List Nat) (c : Column) (name : String) :
    (c.select positions).numbers name = ModelFormula.select positions <$> c.numbers name := by
  cases c with
  | doubles values => rfl
  | ints cells => exact congrArg Except.ok (select_map _ positions cells).symm
  | truths cells => exact congrArg Except.ok (select_map _ positions cells).symm
  | texts storage cells => rfl
  | objects values => rfl
  | other storage cells => rfl
  | factor f =>
    have truth : isTruthFactor (f.select positions) = isTruthFactor f := rfl
    simp only [select, numbers, numbers?, truth]
    split
    · rw [Factor.values_select]
      exact congrArg Except.ok (select_map _ positions f.values).symm
    · rfl

theorem length_of_numbers {c : Column} {name : String} {xs : List Float}
    (h : c.numbers name = .ok xs) : xs.length = c.length := by
  cases c with
  | doubles values => cases h; rfl
  | ints cells => cases h; exact List.length_map _
  | truths cells => cases h; exact List.length_map _
  | texts storage cells => cases h
  | objects values => cases h
  | other storage cells => cases h
  | factor f =>
    unfold numbers numbers? at h
    simp only at h
    split at h
    · cases h
      rw [List.length_map, Factor.length_values]
      rfl
    · cases h

end Column

theorem Source.selects_vector (positions : List Nat) (t : Table) (name : Plain) :
    Selects t.rows positions ((Source.table t).vector name)
      ((Source.table (t.select positions)).vector name) := by
  show Selects t.rows positions (t.column name >>= fun c => c.numbers name.asText >>= _)
    ((t.select positions).column name >>= fun c => c.numbers name.asText >>= _)
  rw [Table.column_select]
  cases found : t.column name with
  | error e => exact Selects.error e
  | ok c =>
    show Selects t.rows positions (c.numbers name.asText >>= fun xs => .ok (.vector xs))
      ((c.select positions).numbers name.asText >>= fun xs => .ok (.vector xs))
    rw [Column.numbers_select]
    cases numbers : c.numbers name.asText with
    | error e => exact Selects.error e
    | ok xs =>
      refine Selects.ok (.vector ?_)
      rw [Column.length_of_numbers numbers, Table.length_of_column found]

/-! ## Expressions -/

namespace Node

theorem evaluate_call (source : Source) (op : Plain) (args : List Node) :
    (Node.call op args).evaluate registry source =
      evaluateAll registry source args >>= applyCall registry (.call op args) op := by
  rw [evaluate]
  cases evaluateAll registry source args <;> rfl

theorem evaluateAll_cons (source : Source) (node : Node) (nodes : List Node) :
    evaluateAll registry source (node :: nodes) = do
      let v ← node.evaluate registry source
      let vs ← evaluateAll registry source nodes
      return v :: vs := by
  rw [evaluateAll]
  cases node.evaluate registry source with
  | error e => rfl
  | ok v => cases evaluateAll registry source nodes <;> rfl

variable {t : Table}

mutual
/-- **The value of an expression on some rows is its value on all rows, at these.** -/
theorem evaluate_select (row_wise : registry.Rowwise) : ∀ node : Node,
    Selects t.rows positions (node.evaluate registry (.table t))
      (node.evaluate registry (.table (t.select positions)))
  | .literal value => by
    unfold evaluate
    cases literalNumber value with
    | error e => exact Selects.error e
    | ok x => exact Selects.ok (.scalar x)
  | .symbol name => Source.selects_vector positions t name
  | .call op args => by
    obtain ⟨each, part⟩ := evaluateAll_select row_wise args
    unfold evaluate
    rw [part]
    cases values : evaluateAll registry (.table t) args with
    | error e => exact Selects.error e
    | ok vs => exact selects_applyCall row_wise _ op (each vs values)
  | .formula left right => Selects.error _
  | .plain value => Selects.error _
theorem evaluateAll_select (row_wise : registry.Rowwise) : ∀ nodes : List Node,
    (∀ vs, evaluateAll registry (.table t) nodes = .ok vs → ∀ v ∈ vs, v.Rowwise t.rows) ∧
      evaluateAll registry (.table (t.select positions)) nodes =
        List.map (Value.select positions) <$> evaluateAll registry (.table t) nodes
  | [] => ⟨fun vs same v hv => (by cases same; cases hv), rfl⟩
  | node :: nodes => by
    obtain ⟨head, head_part⟩ := evaluate_select row_wise node
    obtain ⟨tail, tail_part⟩ := evaluateAll_select row_wise nodes
    unfold evaluateAll
    rw [head_part, tail_part]
    cases value : node.evaluate registry (.table t) with
    | error e => exact ⟨fun vs same => (by cases same), rfl⟩
    | ok v =>
      cases values : evaluateAll registry (.table t) nodes with
      | error e => exact ⟨fun vs same => (by cases same), rfl⟩
      | ok vs =>
        refine ⟨fun ws same w hw => ?_, rfl⟩
        cases same
        rcases List.mem_cons.1 hw with rfl | hw
        · exact head _ value
        · exact tail vs values w hw
end

theorem rowwise_evaluate (row_wise : registry.Rowwise) {node : Node} {v : Value}
    (value : node.evaluate registry (.table t) = .ok v) : v.Rowwise t.rows := by
  have part : Selects t.rows [] (node.evaluate registry (.table t))
      (node.evaluate registry (.table (t.select []))) := evaluate_select row_wise node
  exact part.rowwise v value

end Node

/-! ## Columns of expressions -/

/-- One number for each of `n` rows: a single number is repeated. -/
def Value.inRows (n : Nat) : Value → List Float
  | .scalar x => List.replicate n x
  | v => v.numbers

theorem Value.length_inRows {v : Value} (h : v.Rowwise n) : (v.inRows n).length = n := by
  cases h with
  | scalar x => exact List.length_replicate
  | vector length => exact length

theorem Value.inRows_select (within : Within n positions) {v : Value} (h : v.Rowwise n) :
    (v.select positions).inRows positions.length =
      ModelFormula.select positions (v.inRows n) := by
  cases h with
  | scalar x => exact (select_replicate within x).symm
  | vector length => rfl

variable {t : Table} {node : Node}

theorem spreadOverRows_of_rowwise {v : Value} (h : v.Rowwise t.rows) :
    spreadOverRows node (.table t) v = .ok (v.inRows t.rows) := by
  cases h with
  | scalar x => rfl
  | @vector xs length =>
    have shape : (Value.vector xs).shape = [t.rows] := by rw [← length]; rfl
    unfold spreadOverRows
    simp only [Source.rows, bind, Except.bind, shape, if_true]
    rfl

/-- Noting infinite numbers fails for no expression that has a text. -/
theorem outcome_noteInfinite (h : node.wellFormed = true) (xs : List Float) :
    (noteInfinite node xs).outcome = .ok () := by
  unfold noteInfinite
  split
  · rfl
  · rw [Node.render_of_wellFormed h]
    rfl

/-- The column of an expression is its value, spread over the rows. -/
theorem outcome_evaluateColumn (row_wise : registry.Rowwise) (h : node.wellFormed = true) :
    (evaluateColumn registry node (.table t)).outcome =
      Value.inRows t.rows <$> node.evaluate registry (.table t) := by
  show (Journal.quiet _ >>= _ : Journal _).outcome = _
  rw [Journal.outcome_bind, Journal.outcome_quiet]
  cases value : node.evaluate registry (.table t) with
  | error e => rfl
  | ok v =>
    show (Journal.quiet (spreadOverRows node (.table t) v) >>= _ : Journal _).outcome = _
    rw [Journal.outcome_bind, Journal.outcome_quiet,
      spreadOverRows_of_rowwise (Node.rowwise_evaluate row_wise value)]
    show (noteInfinite node _ >>= _ : Journal _).outcome = _
    rw [Journal.outcome_bind, outcome_noteInfinite h]
    rfl

theorem length_of_evaluateColumn (row_wise : registry.Rowwise) (h : node.wellFormed = true)
    {xs : List Float} (evaluated : (evaluateColumn registry node (.table t)).outcome = .ok xs) :
    xs.length = t.rows := by
  rw [outcome_evaluateColumn row_wise h] at evaluated
  obtain ⟨v, value, rfl⟩ := map_eq_ok.1 evaluated
  exact Value.length_inRows (Node.rowwise_evaluate row_wise value)

/-- **The column of an expression on some rows is its column on all rows, at these.** -/
theorem evaluateColumn_select (row_wise : registry.Rowwise) (h : node.wellFormed = true)
    (within : Within t.rows positions) :
    (evaluateColumn registry node (.table (t.select positions))).outcome =
      select positions <$> (evaluateColumn registry node (.table t)).outcome := by
  obtain ⟨rowwise, part⟩ : Selects t.rows positions (node.evaluate registry (.table t))
      (node.evaluate registry (.table (t.select positions))) := Node.evaluate_select row_wise node
  rw [outcome_evaluateColumn row_wise h, outcome_evaluateColumn row_wise h, part,
    Table.rows_select within]
  cases value : node.evaluate registry (.table t) with
  | error e => rfl
  | ok v => exact congrArg Except.ok (Value.inRows_select within (rowwise v value))

/-- **Evaluation does not look across rows.**  On the table made of the rows at some positions, in
any order and each any number of times, a well-formed expression fails for the reason for which it
fails on the whole table, or it has in row `j` the very number that it has on the whole table in the
row at the `j`-th position. -/
theorem evaluateColumn_rows (h : node.wellFormed = true) (within : Within t.rows positions) :
    (∃ e, (evaluateColumn .standard node (.table t)).outcome = .error e ∧
      (evaluateColumn .standard node (.table (t.select positions))).outcome = .error e) ∨
    ∃ xs ys, (evaluateColumn .standard node (.table t)).outcome = .ok xs ∧
      (evaluateColumn .standard node (.table (t.select positions))).outcome = .ok ys ∧
      xs.length = t.rows ∧ ys.length = positions.length ∧
      ∀ j i : Nat, positions[j]? = some i → ∃ x, xs[i]? = some x ∧ ys[j]? = some x := by
  have part := evaluateColumn_select Registry.rowwise_standard h within
  cases whole : (evaluateColumn .standard node (.table t)).outcome with
  | error e =>
    rw [whole] at part
    exact .inl ⟨e, rfl, part⟩
  | ok xs =>
    rw [whole] at part
    have length : xs.length = t.rows := length_of_evaluateColumn Registry.rowwise_standard h whole
    have within' : Within xs.length positions := length ▸ within
    refine .inr ⟨xs, select positions xs, rfl, part, length, length_select within',
      fun j i at_j => ?_⟩
    have hi : i < xs.length := within' i (List.mem_of_getElem? at_j)
    refine ⟨xs[i], List.getElem?_eq_getElem hi, ?_⟩
    rw [getElem?_select within', at_j, Option.bind_some, List.getElem?_eq_getElem hi]

/-- A table of three rows with a number and truth values. -/
def guardedTable : Table where
  columns :=
    [(.text "x", .doubles [1.0, 0.0, -3.0]), (.text "c", .truths [some true, some true, none])]
  index := [.text "i", .text "j", .text "k"]
  length_eq := by decide

/-- The expression `2 / x - +c`, which is infinite in the second row and undefined in the third. -/
def guardedQuotient : Node :=
  .app "-" [.app "/" [.literal (.int 2), .var "x"], .app "+" [.var "c"]]

/-- The rows in another order, one of them twice: they have what the whole table has there. -/
theorem evaluateColumn_rows_guardedQuotient :
    ∃ ys, (evaluateColumn .standard guardedQuotient
        (.table (guardedTable.select [1, 0, 1]))).outcome = .ok ys ∧
      ys[0]? = some (1.0 / 0.0) ∧ ys[1]? = some 1.0 ∧ ys[2]? = some (1.0 / 0.0) := by
  have whole : (evaluateColumn .standard guardedQuotient (.table guardedTable)).outcome =
      .ok [1.0, 1.0 / 0.0, 0.0 / 0.0] := by decide +kernel
  have wellFormed : guardedQuotient.wellFormed = true := by decide
  have within : Within guardedTable.rows [1, 0, 1] := by decide
  rcases evaluateColumn_rows wellFormed within with
    ⟨e, failed, -⟩ | ⟨xs, ys, evaluated, part, -, -, rows⟩
  · rw [whole] at failed
    cases failed
  · rw [whole] at evaluated
    cases evaluated
    refine ⟨ys, part, ?_, ?_, ?_⟩
    · obtain ⟨x, at_one, first⟩ := rows 0 1 rfl
      exact first.trans at_one.symm
    · obtain ⟨x, at_zero, second⟩ := rows 1 0 rfl
      exact second.trans at_zero.symm
    · obtain ⟨x, at_one, third⟩ := rows 2 1 rfl
      exact third.trans at_one.symm

end ModelFormula
