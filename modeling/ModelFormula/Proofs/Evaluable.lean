import ModelFormula.Proofs.Evaluation
import ModelFormula.Proofs.FirstFailure
import ModelFormula.Proofs.NormalForm

/-!
# When an expression can be evaluated

Evaluation fails at the first node, in the order in which nodes are evaluated, that cannot be
evaluated by itself.

* `Node.postorder` — the nodes of an expression, a call after its arguments.
* `Column.nonNumeric?` — what a column is stored as that holds no numbers.
* `Node.offence?` — why a node cannot be evaluated, whatever its arguments are.
* `Registry.Total` — functions of one argument that do not fail.
* `failure?_applyCall`, `Node.failure?_evaluate` — a call, and an expression, fails for the first
  offence in it.
* `Node.Evaluable`, `Node.evaluable_iff` — expressions without an offence.
* `evaluateColumn_iff_evaluable` — when the column of an expression is there, and why it is not.
-/

set_option autoImplicit false

namespace ModelFormula

/-! ## Offences -/

/-- What a column is stored as that holds neither numbers nor truth values. -/
def Column.nonNumeric? : Column → Option String
  | .doubles _ => none
  | .ints _ => none
  | .truths _ => none
  | .texts storage _ => some storage.name
  | .objects _ => some objectStorage
  | .other storage _ => some storage
  | .factor f => if isTruthFactor f then none else some "category"

theorem Column.failure?_numbers (name : String) (c : Column) :
    failure? (c.numbers name) = c.nonNumeric?.map (notNumeric name) := by
  cases c with
  | factor f =>
    show failure? (Except.mapError _ (if isTruthFactor f then _ else _)) =
      Option.map _ (if isTruthFactor f then _ else _)
    cases isTruthFactor f <;> rfl
  | _ => rfl

namespace Node

mutual
/-- The nodes of an expression: a call after its arguments, and these from left to right. -/
def postorder : Node → List Node
  | .call op args => postorderAll args ++ [.call op args]
  | .symbol name => [.symbol name]
  | .literal value => [.literal value]
  | .formula left right => [.formula left right]
  | .plain value => [.plain value]
def postorderAll : List Node → List Node
  | [] => []
  | arg :: args => arg.postorder ++ postorderAll args
end

/-- Whether an operator takes some number of operands: two and more, or one sign. -/
def takesOperands (op : Plain) (count : Nat) : Bool :=
  decide (2 ≤ count) || decide (count = 1) && (decide (op = .text "+") || decide (op = .text "-"))

/-- Why a symbol has no value: there is no column of its name, or one without numbers. -/
def symbolOffence? (t : Table) (name : Plain) : Option Failure :=
  match t.columnsOf name with
  | [] => some (.missingColumn name t.labels)
  | c :: _ => c.nonNumeric?.map (Column.notNumeric name.asText)

/-- Why a number has no value: it is a whole one that no double is near. -/
def literalOffence? : Plain → Option Failure
  | .int n => if (floatOfInt? n).isNone then some .overflow else none
  | _ => none

/-- What is said of a call with too few operands. -/
def operandFailure (call : Node) (op : Plain) : Failure :=
  .invalidTerm call.text ("operator '" ++ op.asText ++ "' needs two operands") []

/-- Why a call of evaluated arguments is refused: an operator does not take so many operands, or the
function is unknown. -/
def callOffence? (registry : Registry) (op : Plain) (args : List Node) : Option Failure :=
  match arithmetic? op, registry.find? op with
  | some _, _ =>
    if takesOperands op args.length then none else some (operandFailure (.call op args) op)
  | none, some _ => none
  | none, none =>
    some (.invalidTerm (Node.call op args).text ("unknown function '" ++ op.asText ++ "'")
      ["Known functions: " ++ ", ".intercalate registry.names,
        "Register new functions with ExpressionEvaluator.register()"])

/-- Why a node cannot be evaluated even if its arguments have been. -/
def offence? (registry : Registry) (t : Table) : Node → Option Failure
  | .symbol name => symbolOffence? t name
  | .literal value => literalOffence? value
  | .call op args => callOffence? registry op args
  | .formula _ _ => none
  | .plain _ => none

/-- Whether a node that is the call of a function has one argument. -/
def isUnaryCall (registry : Registry) : Node → Bool
  | .call op args => !(registry.find? op).isSome || decide (args.length = 1)
  | _ => true

end Node

/-! ## Arithmetic -/

variable {n : Nat}

/-- Row-wise values can be combined. -/
theorem Value.exists_combine (f : Float → Float → Float) {a b : Value} (ha : a.Rowwise n)
    (hb : b.Rowwise n) : ∃ v, combine f a b = .ok v ∧ v.Rowwise n := by
  have rowwise : ∀ v, combine f a b = .ok v → v.Rowwise n :=
    (selects_combine f ha hb : Selects n [] _ _).rowwise
  cases ha with
  | scalar x =>
    cases hb with
    | scalar y => exact ⟨_, rfl, rowwise _ rfl⟩
    | vector length => exact ⟨_, rfl, rowwise _ rfl⟩
  | @vector xs length =>
    cases hb with
    | scalar y => exact ⟨_, rfl, rowwise _ rfl⟩
    | @vector ys length' =>
      -- Both have a number for every row, so they have one length.
      have same : xs.length = ys.length := length.trans length'.symm
      have combined : combine f (.vector xs) (.vector ys) =
          .ok (.vector (List.zipWith f xs ys)) := by
        simp only [combine, stretchWith_of_length_eq f same]
      exact ⟨_, combined, rowwise _ combined⟩

theorem exists_foldlM (f : Float → Float → Float) {first : Value} {values : List Value}
    (h : first.Rowwise n) (hs : ∀ v ∈ values, v.Rowwise n) :
    ∃ v, values.foldlM (Value.combine f) first = .ok v := by
  induction values generalizing first with
  | nil => exact ⟨first, rfl⟩
  | cons v values ih =>
    obtain ⟨next, combined, rowwise⟩ := Value.exists_combine f h (hs v List.mem_cons_self)
    rw [List.foldlM_cons, combined]
    exact ih rowwise fun u hu => hs u (List.mem_cons_of_mem _ hu)

/-- An operator that is applied to evaluated operands fails only for their number. -/
theorem failure?_applyArithmetic {call : Node} (h : call.wellFormed = true) (op : Plain)
    (f : Float → Float → Float) {values : List Value} (rowwise : ∀ v ∈ values, v.Rowwise n) :
    failure? (applyArithmetic call op f values) =
      if Node.takesOperands op values.length then none
      else some (Node.operandFailure call op) := by
  have too_few : failure? (applyArithmetic.tooFew call op) =
      some (Node.operandFailure call op) := by
    unfold applyArithmetic.tooFew
    rw [Node.render_of_wellFormed h]
    rfl
  match values with
  | [] => exact too_few
  | [v] =>
    simp only [applyArithmetic]
    by_cases plus : op = .text "+"
    · simp [plus, Node.takesOperands]
    · by_cases minus : op = .text "-"
      · simp [minus, Node.takesOperands]
      · simp [plus, minus, Node.takesOperands, too_few]
  | v :: w :: values =>
    obtain ⟨result, folded⟩ := exists_foldlM f (rowwise v List.mem_cons_self)
      fun u hu => rowwise u (List.mem_cons_of_mem _ hu)
    have applied : applyArithmetic call op f (v :: w :: values) = .ok result := folded
    rw [applied]
    simp [Node.takesOperands]

/-! ## Functions -/

/-- All functions give a value for one argument. -/
def Registry.Total (registry : Registry) : Prop :=
  ∀ (op : Plain) (f : Function), registry.find? op = some f → ∀ v, ∃ w, f [v] = .ok w

theorem Registry.total_standard : Registry.Total standard := by
  intro op f found v
  rcases standard_cases found with rfl | ⟨g, rfl⟩
  · exact ⟨v, rfl⟩
  · exact ⟨v.map g, rfl⟩

variable {registry : Registry} {t : Table}

/-- **A call of evaluated arguments fails for its own offence alone.** -/
theorem failure?_applyCall (total : registry.Total) {op : Plain} {args : List Node}
    (h : (Node.call op args).wellFormed = true)
    (unary : (Node.call op args).isUnaryCall registry = true) {values : List Value}
    (size : values.length = args.length) (rowwise : ∀ v ∈ values, v.Rowwise n) :
    failure? (applyCall registry (.call op args) op values) =
      Node.callOffence? registry op args := by
  have parts := h
  simp only [Node.wellFormed, Bool.and_eq_true] at parts
  unfold applyCall
  rw [if_neg (by simp [Node.hashable_of_isName parts.1.1])]
  unfold Node.callOffence?
  cases arithmetic? op with
  | some f =>
    rw [← size]
    exact failure?_applyArithmetic h op f rowwise
  | none =>
    show failure? (applyFunction _ op registry values) = _
    unfold applyFunction
    cases found : registry.find? op with
    | some f =>
      have single : args.length = 1 := by simpa [Node.isUnaryCall, found] using unary
      obtain ⟨v, rfl⟩ := List.length_eq_one_iff.1 (size.trans single)
      obtain ⟨w, done⟩ := total op f found v
      exact failure?_eq_none_iff.2 ⟨w, done⟩
    | none =>
      show failure? (Node.render _ >>= _) = _
      rw [Node.render_of_wellFormed h]
      rfl

/-! ## Expressions -/

/-- Of columns with different labels at most one has a name. -/
theorem Table.columnsOf_of_distinct (distinct : t.labels.Pairwise fun a b => a.sameLabel b = false)
    (name : Plain) : t.columnsOf name = [] ∨ ∃ c, t.columnsOf name = [c] := by
  have named : ∀ c ∈ t.columns.filter (fun c => c.1.sameLabel name), c.1.sameLabel name = true :=
    fun c hc => (List.mem_filter.1 hc).2
  have differ := (List.pairwise_map.1 distinct).filter fun c => c.1.sameLabel name
  unfold columnsOf
  generalize t.columns.filter _ = columns at named differ
  match columns, named, differ with
  | [], _, _ => exact .inl rfl
  | [c], _, _ => exact .inr ⟨c.2, rfl⟩
  | c :: d :: rest, named, differ =>
    have first := named c List.mem_cons_self
    have second := named d (List.mem_cons_of_mem _ List.mem_cons_self)
    have other := (List.pairwise_cons.1 differ).1 d List.mem_cons_self
    simp only [Plain.sameLabel, decide_eq_true_eq, decide_eq_false_iff_not] at first second other
    exact absurd (first.trans second.symm) other

theorem Source.failure?_vector (distinct : t.labels.Pairwise fun a b => a.sameLabel b = false)
    {name : Plain} (named : name.isName = true) :
    failure? ((Source.table t).vector name) = Node.symbolOffence? t name := by
  show failure? (t.column name >>= fun c => c.numbers name.asText >>= _) = _
  unfold Table.column Node.symbolOffence?
  rw [if_pos (Node.hashable_of_isName named)]
  rcases Table.columnsOf_of_distinct distinct name with nowhere | ⟨c, one⟩
  · rw [nowhere]
    rfl
  · rw [one]
    show failure? (c.numbers name.asText >>= _) = _
    refine (failure?_bind_of_ok ?_).trans (Column.failure?_numbers name.asText c)
    intro xs _
    exact ⟨.vector xs, rfl⟩

theorem failure?_literalNumber {value : Plain} (number : value.isNumber = true) :
    failure? (literalNumber value) = Node.literalOffence? value := by
  cases value with
  | int n =>
    simp only [literalNumber, Node.literalOffence?]
    cases floatOfInt? n <;> rfl
  | float x => rfl
  | nan id => rfl
  | _ => cases number

namespace Node

theorem length_of_evaluateAll {source : Source} {nodes : List Node} {values : List Value}
    (h : evaluateAll registry source nodes = .ok values) : values.length = nodes.length := by
  induction nodes generalizing values with
  | nil =>
    cases h
    rfl
  | cons node nodes ih =>
    rw [evaluateAll_cons] at h
    obtain ⟨v, -, h⟩ := bind_eq_ok.1 h
    obtain ⟨vs, rest, h⟩ := bind_eq_ok.1 h
    cases h
    rw [List.length_cons, List.length_cons, ih rest]

theorem rowwise_evaluateAll (row_wise : registry.Rowwise) {nodes : List Node} {values : List Value}
    (h : evaluateAll registry (.table t) nodes = .ok values) : ∀ v ∈ values, v.Rowwise t.rows := by
  have selected : _ ∧ evaluateAll registry (.table (t.select [])) nodes = _ :=
    evaluateAll_select row_wise nodes
  exact selected.1 values h

mutual
/-- **An expression fails for the first offence in it.** -/
theorem failure?_evaluate (row_wise : registry.Rowwise) (total : registry.Total)
    (distinct : t.labels.Pairwise fun a b => a.sameLabel b = false) :
    ∀ node : Node, node.wellFormed = true →
      (∀ part ∈ node.postorder, part.isUnaryCall registry = true) →
      failure? (node.evaluate registry (.table t)) = node.postorder.findSome? (offence? registry t)
  | .symbol name, h, _ => by
    rw [postorder, List.findSome?_singleton]
    exact Source.failure?_vector distinct h
  | .literal value, h, _ => by
    rw [postorder, List.findSome?_singleton, evaluate]
    exact (failure?_map _ _).trans (failure?_literalNumber h)
  | .call op args, h, unary => by
    have parts := h
    simp only [wellFormed, Bool.and_eq_true] at parts
    simp only [postorder, List.forall_mem_append, List.forall_mem_singleton] at unary
    have inner := failure?_evaluateAll row_wise total distinct args parts.2 unary.1
    -- The operator is looked at when all arguments have values, so its offence comes last.
    rw [postorder, List.findSome?_append, List.findSome?_singleton, evaluate_call, ← inner]
    refine failure?_bind fun values done => ?_
    exact failure?_applyCall total h unary.2 (length_of_evaluateAll done)
      (rowwise_evaluateAll row_wise done)
  | .formula _ _, h, _ => by cases h
  | .plain _, h, _ => by cases h
theorem failure?_evaluateAll (row_wise : registry.Rowwise) (total : registry.Total)
    (distinct : t.labels.Pairwise fun a b => a.sameLabel b = false) :
    ∀ nodes : List Node, allWellFormed nodes = true →
      (∀ part ∈ postorderAll nodes, part.isUnaryCall registry = true) →
      failure? (evaluateAll registry (.table t) nodes) =
        (postorderAll nodes).findSome? (offence? registry t)
  | [], _, _ => rfl
  | node :: nodes, h, unary => by
    simp only [allWellFormed, Bool.and_eq_true] at h
    simp only [postorderAll, List.forall_mem_append] at unary
    have head := failure?_evaluate row_wise total distinct node h.1 unary.1
    have tail := failure?_evaluateAll row_wise total distinct nodes h.2 unary.2
    rw [evaluateAll_cons, postorderAll, List.findSome?_append, ← head, ← tail]
    refine failure?_bind fun v _ => failure?_bind_of_ok ?_
    intro vs _
    exact ⟨v :: vs, rfl⟩
end

/-! ## Expressions without an offence -/

/-- What an expression needs to be evaluated. -/
structure Evaluable (registry : Registry) (t : Table) (node : Node) : Prop where
  /-- Every symbol is the name of a column of numbers or truth values. -/
  symbols : ∀ name, .symbol name ∈ node.postorder →
    ∃ c, t.columnsOf name = [c] ∧ c.nonNumeric? = none
  /-- Every whole number is near a double. -/
  literals : ∀ n, .literal (.int n) ∈ node.postorder → ∃ x, floatOfInt? n = some x
  /-- Every arithmetic operator has two operands or more, or is a sign. -/
  arithmetic : ∀ op args, .call op args ∈ node.postorder → arithmetic? op ≠ none →
    2 ≤ args.length ∨ args.length = 1 ∧ (op = .text "+" ∨ op = .text "-")
  /-- Every other call is of a known function. -/
  functions : ∀ op args, .call op args ∈ node.postorder → arithmetic? op = none →
    registry.find? op ≠ none

theorem takesOperands_iff {op : Plain} {count : Nat} : takesOperands op count = true ↔
    2 ≤ count ∨ count = 1 ∧ (op = .text "+" ∨ op = .text "-") := by
  simp [takesOperands]

theorem symbolOffence?_eq_none_iff (distinct : t.labels.Pairwise fun a b => a.sameLabel b = false)
    {name : Plain} : symbolOffence? t name = none ↔
      ∃ c, t.columnsOf name = [c] ∧ c.nonNumeric? = none := by
  unfold symbolOffence?
  rcases Table.columnsOf_of_distinct distinct name with nowhere | ⟨c, one⟩
  · simp [nowhere]
  · simp [one]

theorem literalOffence?_eq_none_iff {n : Int} :
    literalOffence? (.int n) = none ↔ ∃ x, floatOfInt? n = some x := by
  show (if (floatOfInt? n).isNone then _ else _) = none ↔ _
  cases floatOfInt? n <;> simp

theorem callOffence?_eq_none_iff {op : Plain} {args : List Node} :
    callOffence? registry op args = none ↔
      (arithmetic? op ≠ none →
        2 ≤ args.length ∨ args.length = 1 ∧ (op = .text "+" ∨ op = .text "-")) ∧
      (arithmetic? op = none → registry.find? op ≠ none) := by
  rw [← takesOperands_iff]
  unfold callOffence?
  cases arithmetic? op with
  | some f => simp
  | none => cases registry.find? op <;> simp

/-- These are the expressions without an offence. -/
theorem evaluable_iff (distinct : t.labels.Pairwise fun a b => a.sameLabel b = false) {node : Node} :
    node.Evaluable registry t ↔ ∀ part ∈ node.postorder, part.offence? registry t = none := by
  constructor
  · intro evaluable part mem
    cases part with
    | symbol name => exact (symbolOffence?_eq_none_iff distinct).2 (evaluable.symbols name mem)
    | literal value =>
      cases value with
      | int n => exact literalOffence?_eq_none_iff.2 (evaluable.literals n mem)
      | _ => rfl
    | call op args =>
      exact callOffence?_eq_none_iff.2
        ⟨evaluable.arithmetic op args mem, evaluable.functions op args mem⟩
    | formula left right => rfl
    | plain value => rfl
  · intro sound
    constructor
    · intro name mem
      exact (symbolOffence?_eq_none_iff distinct).1 (sound _ mem)
    · intro n mem
      exact literalOffence?_eq_none_iff.1 (sound _ mem)
    · intro op args mem
      exact (callOffence?_eq_none_iff.1 (sound _ mem)).1
    · intro op args mem
      exact (callOffence?_eq_none_iff.1 (sound _ mem)).2

end Node

/-- **When the column of an expression is there, and why it is not.**  With the standard functions,
each called with one argument, a well-formed expression has a number in every row exactly if its
symbols are columns of numbers or truth values, its whole numbers are near doubles, its operators
have the operands they take and all its functions are known.  Else it fails for the first node that
breaks this, a call coming after its arguments.  No value has a wrong shape. -/
theorem evaluateColumn_iff_evaluable {node : Node} (h : node.wellFormed = true)
    (unary : ∀ part ∈ node.postorder, part.isUnaryCall .standard = true)
    (distinct : t.labels.Pairwise fun a b => a.sameLabel b = false) :
    ((∃ xs, (evaluateColumn .standard node (.table t)).outcome = .ok xs ∧ xs.length = t.rows) ↔
      node.Evaluable .standard t) ∧
    (∀ e, (evaluateColumn .standard node (.table t)).outcome = .error e ↔
      node.postorder.findSome? (Node.offence? .standard t) = some e) ∧
    ∀ v, node.evaluate .standard (.table t) = .ok v →
      ∃ xs, spreadOverRows node (.table t) v = .ok xs := by
  have failure : failure? (evaluateColumn .standard node (.table t)).outcome =
      node.postorder.findSome? (Node.offence? .standard t) := by
    rw [outcome_evaluateColumn Registry.rowwise_standard h, failure?_map]
    exact Node.failure?_evaluate Registry.rowwise_standard Registry.total_standard distinct node h
      unary
  refine ⟨?_, fun e => ?_, fun v value => ?_⟩
  · rw [Node.evaluable_iff distinct, ← List.findSome?_eq_none_iff, ← failure, failure?_eq_none_iff]
    refine exists_congr fun xs => and_iff_left_of_imp ?_
    exact length_of_evaluateColumn Registry.rowwise_standard h
  · rw [← failure, failure?_eq_some_iff]
  · exact ⟨_, spreadOverRows_of_rowwise (Node.rowwise_evaluate Registry.rowwise_standard value)⟩

/-- The expression `sqrt(I(x)) * lag(z)`. -/
def laggedProduct : Node :=
  .app "*" [.app "sqrt" [.app "I" [.var "x"]], .app "lag" [.var "z"]]

/-- Of a missing column and an unknown function that is called with it the column is reported; and
`2 / x - +c` has a number in every row. -/
theorem evaluateColumn_iff_evaluable_laggedProduct :
    (evaluateColumn .standard laggedProduct (.table guardedTable)).outcome =
      .error (.missingColumn (.text "z") [.text "x", .text "c"]) ∧
    guardedQuotient.Evaluable .standard guardedTable ∧
    ∃ xs, (evaluateColumn .standard guardedQuotient (.table guardedTable)).outcome = .ok xs ∧
      xs.length = 3 := by
  have distinct : guardedTable.labels.Pairwise fun a b => a.sameLabel b = false := by decide
  have lagged : laggedProduct.wellFormed = true := by decide
  have lagged_unary : ∀ part ∈ laggedProduct.postorder, part.isUnaryCall .standard = true := by
    decide
  obtain ⟨-, failed, -⟩ := evaluateColumn_iff_evaluable lagged lagged_unary distinct
  have guarded : guardedQuotient.wellFormed = true := by decide
  have guarded_unary : ∀ part ∈ guardedQuotient.postorder, part.isUnaryCall .standard = true := by
    decide
  obtain ⟨done, -, -⟩ := evaluateColumn_iff_evaluable guarded guarded_unary distinct
  have evaluable : guardedQuotient.Evaluable .standard guardedTable :=
    (Node.evaluable_iff distinct).2 (by decide +kernel)
  exact ⟨(failed _).2 (by decide +kernel), evaluable, done.2 evaluable⟩

end ModelFormula
