import Mathlib.Algebra.Group.Nat.Defs
import Mathlib.Data.Prod.Lex
import ModelFormula.Proofs.Recursion

/-!
# Distribution ends

Distribution calls itself on operands, which are smaller, and on products of operands that are
distributed already, which may be exponentially larger.  What these products have fewer of is
operands that still wait for their product to be replaced: none waits in what is distributed.

* `Node.measure` — how many operands wait, and then the size; `Node.measure_lt_of_recurs` — every
  call of distribution on the way has a smaller one.
* `Node.exists_recurs_of_size` — the size does not: it can grow exponentially in one call.
* `Node.Runs` — a run of the recursion, with the calls it makes in their order.
* `Node.exists_runs`, `Node.Runs.eq_distribute`, `Node.Runs.unique` — there is exactly one run from
  every node, and it ends as distribution does.
* `Node.Runs.failure` — how it can fail.
* `Node.ends_of_any` — all of this together.
-/

set_option autoImplicit false

namespace ModelFormula.Node

/-! ## The measure -/

mutual
/-- How many operands the products have that are reached below formula operators. -/
def waiting : Node → Nat
  | .call op args =>
    if isFormulaOperator op then (if op = .text "*" then args.length else 0) + waitingIn args
    else 0
  | .symbol _ => 0
  | .literal _ => 0
  | .formula _ _ => 0
  | .plain _ => 0
def waitingIn : List Node → Nat
  | [] => 0
  | arg :: args => arg.waiting + waitingIn args
end

mutual
/-- How many nodes stand in a node, below calls of any operator. -/
def size : Node → Nat
  | .call _ args => sizeIn args + 1
  | .symbol _ => 1
  | .literal _ => 1
  | .formula _ _ => 1
  | .plain _ => 1
def sizeIn : List Node → Nat
  | [] => 0
  | arg :: args => arg.size + sizeIn args
end

/-- The waiting operands count first, and then the size. -/
def measure (node : Node) : Nat ×ₗ Nat := toLex (node.waiting, node.size)

theorem le_of_mem {arg : Node} {args : List Node} (mem : arg ∈ args) :
    arg.waiting ≤ waitingIn args ∧ arg.size ≤ sizeIn args := by
  induction args with
  | nil => cases mem
  | cons first args ih =>
    rw [waitingIn, sizeIn]
    rcases List.mem_cons.1 mem with rfl | mem
    · omega
    · have inside := ih mem
      omega

mutual
/-- In a distributed node nothing waits. -/
theorem waiting_of_isDistributed : ∀ node : Node, node.isDistributed = true → node.waiting = 0
  | .call op args, h => by
    rw [waiting]
    by_cases formula : isFormulaOperator op = true
    · simp only [isDistributed, formula, Bool.not_true, Bool.false_or, Bool.and_eq_true,
        Bool.not_eq_true', decide_eq_false_iff_not] at h
      rw [if_pos formula, if_neg h.1, waitingIn_of_areDistributed args h.2]
    · exact if_neg formula
  | .symbol _, _ => rfl
  | .literal _, _ => rfl
  | .formula _ _, _ => rfl
  | .plain _, _ => rfl
theorem waitingIn_of_areDistributed : ∀ nodes : List Node, areDistributed nodes = true →
    waitingIn nodes = 0
  | [], _ => rfl
  | node :: nodes, h => by
    simp only [areDistributed, Bool.and_eq_true] at h
    rw [waitingIn, waiting_of_isDistributed node h.1, waitingIn_of_areDistributed nodes h.2]
end

theorem waiting_product (args : List Node) :
    (app "*" args).waiting = args.length + waitingIn args := rfl

variable {node other : Node}

/-- **Every call of distribution on the way has a smaller measure.**  An operand is smaller, and no
more operands wait in it; in a product of distributed operands only these wait themselves. -/
theorem measure_lt_of_recurs (step : node.Recurs other) : other.measure < node.measure := by
  rw [measure, measure, Prod.Lex.toLex_lt_toLex]
  cases step with
  | @operand op args _ formula mem =>
    obtain ⟨waits, fits⟩ := le_of_mem mem
    have waits : other.waiting ≤ (Node.call op args).waiting := by
      rw [waiting, if_pos formula]
      exact Nat.le_add_left_of_le waits
    have smaller : other.size < (Node.call op args).size := Nat.lt_succ_of_le fits
    rcases Nat.lt_or_eq_of_le waits with fewer | same
    · exact .inl fewer
    · exact .inr ⟨same, smaller⟩
  | @others args rest first second third all =>
    have operands := areDistributed_distributeAll args _ all
    have size := length_of_distributeAll all
    simp only [areDistributed, Bool.and_eq_true] at operands
    have none_waits : waitingIn (second :: third :: rest) = 0 :=
      waitingIn_of_areDistributed _ (by simp [areDistributed, operands])
    rw [waiting_product, waiting_product, none_waits]
    simp only [List.length_cons] at size ⊢
    exact .inl (by omega)

theorem wellFounded_recurs : WellFounded fun other node => Recurs node other :=
  Subrelation.wf measure_lt_of_recurs (InvImage.wf measure wellFounded_lt)

/-! ## Growth -/

theorem size_pos (node : Node) : 0 < node.size := by
  cases node <;> exact Nat.succ_pos _

theorem size_crossed (a s : Node) : (crossed a s).size = 2 * (a.size + s.size) + 2 := by
  simp only [crossed, app, size, sizeIn]
  omega

/-- With every operand more, what a product stands for becomes twice as large. -/
theorem two_pow_le_size_product (first : Node) (others : List Node) :
    2 ^ others.length ≤ (product first others).size := by
  induction others generalizing first with
  | nil => exact first.size_pos
  | cons second others ih =>
    have rest := ih second
    rw [product, size_crossed, List.length_cons, Nat.pow_succ]
    omega

/-- The product of `n + 2` symbols. -/
def productOfSymbols (n : Nat) : Node := app "*" (List.replicate (n + 2) (var "a"))

theorem size_productOfSymbols (n : Nat) : (productOfSymbols n).size = n + 3 := by
  have each : ∀ k, sizeIn (List.replicate k (var "a")) = k := by
    intro k
    induction k with
    | zero => rfl
    | succ k ih =>
      rw [List.replicate_succ, sizeIn, ih]
      exact Nat.add_comm 1 k
  show sizeIn _ + 1 = _
  rw [each]

theorem distribute_productOfSymbols (n : Nat) :
    (productOfSymbols n).distribute = .ok (product (var "a") (List.replicate (n + 1) (var "a"))) := by
  have settled : ∀ k, distributeAll (List.replicate k (var "a")) = .ok (List.replicate k (var "a")) := by
    intro k
    induction k with
    | zero => rfl
    | succ k ih =>
      rw [List.replicate_succ, distributeAll, ih]
      rfl
  exact distribute_times (settled (n + 2))

/-- **A call can be on an exponentially larger node**: the last operands of a product are distributed
when it calls itself on their product. -/
theorem exists_recurs_of_size (n : Nat) : ∃ caller callee : Node, caller.Recurs callee ∧
    caller.size = n + 6 ∧ 2 ^ n < callee.size := by
  have grown := two_pow_le_size_product (var "a") (List.replicate (n + 1) (var "a"))
  rw [List.length_replicate, Nat.pow_succ] at grown
  refine ⟨app "*" [var "a", var "a", productOfSymbols n],
    app "*" [var "a", product (var "a") (List.replicate (n + 1) (var "a"))],
    @Recurs.others _ [] (var "a") _ _ ?_, ?_, ?_⟩
  · simp only [distributeAll, distribute_productOfSymbols]
    rfl
  · show 1 + (1 + ((productOfSymbols n).size + 0)) + 1 = _
    rw [size_productOfSymbols]
    omega
  · show _ < 1 + (_ + 0) + 1
    omega

/-! ## Runs -/

mutual
/-- A run of the recursion from a node: how it ends, and the nodes it is called on, in the order of
the calls. -/
inductive Runs : Node → Except Failure Node → List Node → Prop where
  | leaf {node : Node} (no_call : ∀ op args, node ≠ .call op args) : Runs node (.ok node) [node]
  | refused {op : Plain} {args : List Node} (unhashable : op.hashable = false) :
      Runs (.call op args) (.error .wrongKind) [.call op args]
  | foreign {op : Plain} {args : List Node} (hashable : op.hashable = true)
      (foreign : isFormulaOperator op = false) :
      Runs (.call op args) (.ok (.call op args)) [.call op args]
  | formula {op : Plain} {args : List Node} {operands : Except Failure (List Node)}
      {outcome : Except Failure Node} {calls more : List Node}
      (formula : isFormulaOperator op = true) (each : RunsAll args operands calls)
      (rest : Finishes op args operands outcome more) :
      Runs (.call op args) outcome (.call op args :: (calls ++ more))
/-- Runs from operands, one after the other, up to the first that fails. -/
inductive RunsAll : List Node → Except Failure (List Node) → List Node → Prop where
  | nil : RunsAll [] (.ok []) []
  | failed {arg : Node} {args calls : List Node} {e : Failure} (head : Runs arg (.error e) calls) :
      RunsAll (arg :: args) (.error e) calls
  | cons {arg first : Node} {args calls more : List Node} {rest : Except Failure (List Node)}
      (head : Runs arg (.ok first) calls) (tail : RunsAll args rest more) :
      RunsAll (arg :: args) ((first :: ·) <$> rest) (calls ++ more)
/-- How a run ends once the operands of a call are distributed.  The product of all operands but the
first, if these are more than one, is distributed once more. -/
inductive Finishes : Plain → List Node → Except Failure (List Node) → Except Failure Node →
    List Node → Prop where
  | failed {op : Plain} {args : List Node} {e : Failure} : Finishes op args (.error e) (.error e) []
  | mapped {op : Plain} {args operands : List Node} (other : op ≠ .text "*") :
      Finishes op args (.ok operands) (.ok (.call op operands)) []
  | short {args operands : List Node} (few : operands.length < 2) :
      Finishes (.text "*") args (.ok operands)
        (.error (.malformed (app "*" args) "product of at least two operands")) []
  | pair {args : List Node} {first second : Node} :
      Finishes (.text "*") args (.ok [first, second]) (.ok (crossed first second)) []
  | again {args rest more : List Node} {first second third : Node} {others : Except Failure Node}
      (run : Runs (app "*" (second :: third :: rest)) others more) :
      Finishes (.text "*") args (.ok (first :: second :: third :: rest))
        (crossed first <$> others) more
end

/-- A call of a formula operator, by what its operands give; the product of all distributed operands
but the first is distributed once more. -/
theorem distribute_again {op : Plain} (formula : isFormulaOperator op = true) (args : List Node) :
    (Node.call op args).distribute = (do
      let operands ← distributeAll args
      if op = .text "*" then productAgain distribute (.call op args) operands
      else .ok (.call op operands)) := by
  rw [distributeAll_eq_mapM, ← redistribute_call distribute formula, redistribute_distribute]

mutual
/-- **A run ends as distribution does.** -/
theorem Runs.eq_distribute {node : Node} {outcome : Except Failure Node} {calls : List Node} :
    Runs node outcome calls → outcome = node.distribute
  | .leaf no_call => by
    cases node with
    | call op args => exact absurd rfl (no_call op args)
    | _ => rfl
  | .refused unhashable => by rw [distribute, if_pos (by simp [unhashable])]
  | .foreign hashable foreign => by
    rw [distribute, if_neg (by simp [hashable]), foreign]
    rfl
  | .formula known each rest => by
    rw [distribute_again known, ← each.eq_distributeAll]
    exact rest.eq_distribute
theorem RunsAll.eq_distributeAll {args : List Node} {operands : Except Failure (List Node)}
    {calls : List Node} : RunsAll args operands calls → operands = distributeAll args
  | .nil => rfl
  | .failed head => by rw [distributeAll, ← head.eq_distribute]
  | .cons head tail => by
    rw [distributeAll, ← head.eq_distribute, ← tail.eq_distributeAll]
    rename_i rest
    cases rest <;> rfl
theorem Finishes.eq_distribute {op : Plain} {args : List Node}
    {operands : Except Failure (List Node)} {outcome : Except Failure Node} {more : List Node} :
    Finishes op args operands outcome more → outcome = (do
      let results ← operands
      if op = .text "*" then productAgain distribute (.call op args) results
      else .ok (.call op results))
  | .failed => rfl
  | .mapped other => (if_neg other).symm
  | .short few => by
    rename_i results
    match results, few with
    | [], _ => rfl
    | [_], _ => rfl
  | .pair => rfl
  | .again run => by
    rw [run.eq_distribute]
    rfl
end

mutual
/-- The calls of a run are determined. -/
theorem Runs.unique {node : Node} {outcome : Except Failure Node} {calls : List Node} :
    Runs node outcome calls → ∀ {outcome' : Except Failure Node} {calls' : List Node},
      Runs node outcome' calls' → calls' = calls
  | .leaf no_call, _, _, other => by
    cases node with
    | call op args => exact absurd rfl (no_call op args)
    | _ => cases other; rfl
  | .refused unhashable, _, _, other => by
    cases other with
    | leaf no_call => rfl
    | refused _ => rfl
    | foreign hashable _ => rfl
    | formula known _ _ =>
      rw [hashable_of_isFormulaOperator known] at unhashable
      cases unhashable
  | .foreign _ foreign, _, _, other => by
    cases other with
    | leaf no_call => rfl
    | refused _ => rfl
    | foreign _ _ => rfl
    | formula known _ _ =>
      rw [foreign] at known
      cases known
  | .formula known each rest, _, _, other => by
    cases other with
    | leaf no_call => exact absurd rfl (no_call _ _)
    | refused unhashable =>
      rw [hashable_of_isFormulaOperator known] at unhashable
      cases unhashable
    | foreign _ foreign =>
      rw [foreign] at known
      cases known
    | formula _ each' rest' =>
      obtain rfl := each.eq_distributeAll.trans each'.eq_distributeAll.symm
      rw [each.unique each', rest.unique rest']
theorem RunsAll.unique {args : List Node} {operands : Except Failure (List Node)}
    {calls : List Node} : RunsAll args operands calls →
      ∀ {operands' : Except Failure (List Node)} {calls' : List Node},
        RunsAll args operands' calls' → calls' = calls
  | .nil, _, _, other => by cases other; rfl
  | .failed head, _, _, other => by
    cases other with
    | failed head' => exact head.unique head'
    | cons head' _ => cases head.eq_distribute.trans head'.eq_distribute.symm
  | .cons head tail, _, _, other => by
    cases other with
    | failed head' => cases head.eq_distribute.trans head'.eq_distribute.symm
    | cons head' tail' => rw [head.unique head', tail.unique tail']
theorem Finishes.unique {op : Plain} {args : List Node} {operands : Except Failure (List Node)}
    {outcome : Except Failure Node} {more : List Node} : Finishes op args operands outcome more →
      ∀ {outcome' : Except Failure Node} {more' : List Node},
        Finishes op args operands outcome' more' → more' = more
  | .failed, _, _, other => by cases other; rfl
  | .mapped _, _, _, other => by
    cases other with
    | mapped _ => rfl
    | again _ => contradiction
    | _ => rfl
  | .short few, _, _, other => by
    cases other with
    | again _ => exact absurd few (by simp)
    | _ => rfl
  | .pair, _, _, other => by cases other <;> rfl
  | .again run, _, _, other => by
    cases other with
    | mapped other => exact absurd rfl other
    | short few => exact absurd few (by simp)
    | again run' => exact run.unique run'
end

/-! ## Every node has a run -/

/-- Runs from each operand make up a run from all of them. -/
theorem exists_runsAll {inside : Node → Prop} {args : List Node}
    (each : ∀ arg ∈ args, ∃ calls, Runs arg arg.distribute calls ∧ ∀ call ∈ calls, inside call) :
    ∃ calls, RunsAll args (distributeAll args) calls ∧ ∀ call ∈ calls, inside call := by
  induction args with
  | nil => exact ⟨[], .nil, by simp⟩
  | cons arg args ih =>
    obtain ⟨calls, head, inside_head⟩ := each arg List.mem_cons_self
    cases first : arg.distribute with
    | error e =>
      rw [first] at head
      rw [distributeAll, first]
      exact ⟨calls, .failed head, inside_head⟩
    | ok result =>
      obtain ⟨more, tail, inside_tail⟩ := ih fun other mem => each other (List.mem_cons_of_mem _ mem)
      rw [first] at head
      refine ⟨calls ++ more, ?_, fun call mem => ?_⟩
      · have both := RunsAll.cons head tail
        rw [distributeAll, first]
        cases rest : distributeAll args <;> rw [rest] at both <;> exact both
      · rcases List.mem_append.1 mem with mem | mem
        · exact inside_head call mem
        · exact inside_tail call mem

/-- Once the operands of a call are distributed, the run goes on with their product at most. -/
theorem exists_finishes {inside : Node → Prop} (op : Plain) {args : List Node}
    (again : ∀ others, (Node.call op args).Recurs others →
      ∃ calls, Runs others others.distribute calls ∧ ∀ call ∈ calls, inside call)
    {operands : Except Failure (List Node)} (all : distributeAll args = operands) :
    ∃ outcome calls, Finishes op args operands outcome calls ∧ ∀ call ∈ calls, inside call := by
  have none_inside : ∀ call ∈ ([] : List Node), inside call := by simp
  cases operands with
  | error e => exact ⟨_, [], .failed, none_inside⟩
  | ok results =>
    by_cases times : op = .text "*"
    · subst times
      match results, all with
      | [], _ => exact ⟨_, [], .short (by decide), none_inside⟩
      | [_], _ => exact ⟨_, [], .short (by simp), none_inside⟩
      | [_, _], _ => exact ⟨_, [], .pair, none_inside⟩
      | first :: second :: third :: rest, all =>
        obtain ⟨calls, run, inside_run⟩ := again _ (.others all)
        exact ⟨_, calls, .again run, inside_run⟩
    · exact ⟨_, [], .mapped times, none_inside⟩

/-- **There is a run from every node**, and all its calls are reached from the node. -/
theorem exists_runs (node : Node) : ∃ calls, Runs node node.distribute calls ∧
    ∀ call ∈ calls, Relation.ReflTransGen Recurs node call := by
  -- The measure decreases from a call to those it makes.
  induction node using wellFounded_recurs.induction with
  | _ node ih =>
  have onward : ∀ other, node.Recurs other → ∃ calls, Runs other other.distribute calls ∧
      ∀ call ∈ calls, Relation.ReflTransGen Recurs node call := by
    intro other step
    obtain ⟨calls, run, reached⟩ := ih other step
    exact ⟨calls, run, fun call mem => .head step (reached call mem)⟩
  have only_itself : ∀ call ∈ [node], Relation.ReflTransGen Recurs node call := by
    intro call mem
    rw [List.mem_singleton.1 mem]
  cases node with
  | call op args =>
    by_cases known : isFormulaOperator op = true
    · obtain ⟨calls, each, reached⟩ := exists_runsAll fun arg mem => onward arg (.operand known mem)
      obtain ⟨outcome, more, rest, reached_more⟩ := exists_finishes op onward rfl
      have run := Runs.formula known each rest
      refine ⟨_, run.eq_distribute ▸ run, fun call mem => ?_⟩
      rcases List.mem_cons.1 mem with rfl | mem
      · exact .refl
      · rcases List.mem_append.1 mem with mem | mem
        · exact reached call mem
        · exact reached_more call mem
    · have foreign : isFormulaOperator op = false := by simpa using known
      by_cases hashable : op.hashable = true
      · have run := @Runs.foreign op args hashable foreign
        exact ⟨_, run.eq_distribute ▸ run, only_itself⟩
      · have run := @Runs.refused op args (by simpa using hashable)
        exact ⟨_, run.eq_distribute ▸ run, only_itself⟩
  | _ => exact ⟨_, .leaf (by simp), only_itself⟩

/-! ## How runs fail -/

/-- A call with an operator that cannot be looked up, reached from a node, and the failure it is. -/
def UnknownOperator (node : Node) (e : Failure) : Prop :=
  ∃ op args, node.Reaches isFormulaOperator (.call op args) ∧ op.hashable = false ∧ e = .wrongKind

/-- Once the operands are distributed, only a product of fewer than two of them fails. -/
theorem Finishes.failure {op : Plain} {args : List Node} {operands : Except Failure (List Node)}
    {outcome : Except Failure Node} {more : List Node} : Finishes op args operands outcome more →
      operands = distributeAll args → ∀ e, outcome = .error e →
        operands = .error e ∨ (Node.call op args).ShortProduct e
  | .failed, _, _, wrong => by
    cases wrong
    exact .inl rfl
  | .mapped _, _, _, wrong => by cases wrong
  | .short few, all, _, wrong => by
    cases wrong
    rw [length_of_distributeAll all.symm] at few
    exact .inr ⟨_, .here _, few, rfl⟩
  | .pair, _, _, wrong => by cases wrong
  | .again run, all, e, wrong => by
    -- What is distributed once more is distributed already, and that does not fail.
    obtain ⟨_, _, _, tail, same⟩ :=
      distributeAll_cons_eq_ok (distributeAll_distributeAll _ _ all.symm)
    cases same
    rw [map_eq_error, run.eq_distribute, distribute_times tail] at wrong
    cases wrong

mutual
/-- **A run fails only at a product of fewer than two operands, or at an operator that cannot be
looked up.** -/
theorem Runs.failure {node : Node} {outcome : Except Failure Node} {calls : List Node} :
    Runs node outcome calls → ∀ e, outcome = .error e → node.ShortProduct e ∨ node.UnknownOperator e
  | .leaf _, e, wrong => by cases wrong
  | .refused unhashable, e, wrong => by
    cases wrong
    exact .inr ⟨_, _, .here _, unhashable, rfl⟩
  | .foreign _ _, e, wrong => by cases wrong
  | .formula known each rest, e, wrong => by
    rcases rest.failure each.eq_distributeAll e wrong with wrong | short
    · obtain ⟨arg, mem, ⟨short, reached, few⟩ | ⟨op, args, reached, unknown⟩⟩ :=
        each.failure e wrong
      · exact .inl ⟨short, .inside known mem reached, few⟩
      · exact .inr ⟨op, args, .inside known mem reached, unknown⟩
    · exact .inl short
theorem RunsAll.failure {args : List Node} {operands : Except Failure (List Node)}
    {calls : List Node} : RunsAll args operands calls → ∀ e, operands = .error e →
      ∃ arg ∈ args, arg.ShortProduct e ∨ arg.UnknownOperator e
  | .nil, e, wrong => by cases wrong
  | .failed head, e, wrong => by
    cases wrong
    exact ⟨_, List.mem_cons_self, head.failure _ rfl⟩
  | .cons _ tail, e, wrong => by
    obtain ⟨arg, mem, fault⟩ := tail.failure e (map_eq_error.1 wrong)
    exact ⟨arg, List.mem_cons_of_mem _ mem, fault⟩
end

/-- **Distribution of any node ends**: along every call that it makes of itself the measure
decreases, though a call can be on an exponentially larger node, and these are finitely many.  It ends with a node, or fails at a product of fewer than
two operands or at an operator that cannot be looked up. -/
theorem ends_of_any (node : Node) :
    (∀ caller callee : Node, caller.Recurs callee → callee.measure < caller.measure) ∧
    (∀ n : Nat, ∃ caller callee : Node, caller.Recurs callee ∧
      caller.size = n + 6 ∧ 2 ^ n < callee.size) ∧
    ∃ calls : List Node, Runs node node.distribute calls ∧
      (∀ outcome others, Runs node outcome others → outcome = node.distribute ∧ others = calls) ∧
      (∀ call ∈ calls, Relation.ReflTransGen Recurs node call) ∧
      ((∃ result, node.distribute = .ok result) ∨
        ∃ e, node.distribute = .error e ∧ (node.ShortProduct e ∨ node.UnknownOperator e)) := by
  refine ⟨fun caller callee => measure_lt_of_recurs, exists_recurs_of_size, ?_⟩
  obtain ⟨calls, run, reached⟩ := exists_runs node
  refine ⟨calls, run, fun outcome others other => ⟨other.eq_distribute, run.unique other⟩, reached,
    ?_⟩
  cases outcome : node.distribute with
  | ok result => exact .inl ⟨result, rfl⟩
  | error e => exact .inr ⟨e, rfl, run.failure e outcome⟩

/-- A call whose operator is an empty list. -/
def listedOperator : Node := .call (.list []) [var "a"]

/-- Distribution of this call gives no node, and its failure is not that of a malformed node. -/
theorem distribute_listedOperator : listedOperator.distribute = .error .wrongKind ∧
    ¬((∃ result, listedOperator.distribute = .ok result) ∨
      ∃ found expected, listedOperator.distribute = .error (.malformed found expected)) := by
  have failed : listedOperator.distribute = .error .wrongKind := rfl
  rw [failed]
  exact ⟨rfl, by simp⟩

end ModelFormula.Node
