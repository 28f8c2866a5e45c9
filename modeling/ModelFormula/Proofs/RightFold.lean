import ModelFormula.Proofs.NormalForm

/-!
# Distribution as a fold

Distribution may be done by a recursion that does not fold at once: the product of all operands but
the first, which have been distributed already and may have grown, is distributed once more.  It
comes to the same, because what has been distributed stays as it is.

* `Node.redistribute` — one step of that recursion.
* `Node.distribute_distribute` — distribution changes nothing in its own results.
* `Node.redistribute_distribute`, `Node.eq_distribute` — distribution is the only function that
  obeys the recursion.
* `Node.shortProduct_of_distribute`, `Node.two_le_length` — it fails exactly at products of fewer
  than two operands.
* `Node.distribute_fold` — a product becomes the right fold of its distributed operands.
* `Node.IsRightFold`, `Node.isRightFold_distribute` — what distribution does to every expression.
-/

set_option autoImplicit false

namespace ModelFormula.Node

/-- The product `whole` of distributed operands, with `again` for one more distribution: of more
than two operands the product of all but the first is distributed again. -/
def productAgain (again : Node → Except Failure Node) (whole : Node) :
    List Node → Except Failure Node
  | [first, second] => .ok (crossed first second)
  | first :: second :: third :: rest => do
    let others ← again (app "*" (second :: third :: rest))
    return crossed first others
  | _ => .error (.malformed whole "product of at least two operands")

/-- One step of distribution, with `again` where it calls itself: on the operands, and on the
product of those of them that are distributed already. -/
def redistribute (again : Node → Except Failure Node) : Node → Except Failure Node
  | .call op args =>
    if !op.hashable then .error .wrongKind
    else if isFormulaOperator op then do
      let operands ← args.mapM again
      if op = .text "*" then productAgain again (.call op args) operands
      else return .call op operands
    else .ok (.call op args)
  | node => .ok node

/-! ## Distribution, case by case -/

theorem distributeAll_eq_mapM (args : List Node) : distributeAll args = args.mapM distribute := by
  induction args with
  | nil => rfl
  | cons arg args ih =>
    rw [distributeAll, List.mapM_cons, ← ih]
    cases arg.distribute with
    | error e => rfl
    | ok first => cases distributeAll args <;> rfl

/-- Operators with a meaning in formulas are texts. -/
theorem hashable_of_isFormulaOperator {op : Plain} (h : isFormulaOperator op = true) :
    op.hashable = true := by
  cases op with
  | text name => rfl
  | _ => cases h

/-- A product of distributed operands, if there are two. -/
def productOf (whole : Node) : List Node → Except Failure Node
  | first :: second :: rest => .ok (product first (second :: rest))
  | _ => .error (.malformed whole "product of at least two operands")

/-- A call of a formula operator, by what its operands give. -/
theorem distribute_call {op : Plain} (formula : isFormulaOperator op = true) (args : List Node) :
    (Node.call op args).distribute = (do
      let operands ← distributeAll args
      if op = .text "*" then productOf (.call op args) operands else .ok (.call op operands)) := by
  rw [distribute, if_neg (by simp [hashable_of_isFormulaOperator formula]), if_pos formula]
  cases distributeAll args with
  | error e => rfl
  | ok operands =>
    cases operands with
    | nil => rfl
    | cons first others => cases others <;> rfl

/-- The same for a step of distribution. -/
theorem redistribute_call (again : Node → Except Failure Node) {op : Plain}
    (formula : isFormulaOperator op = true) (args : List Node) :
    redistribute again (.call op args) = (do
      let operands ← args.mapM again
      if op = .text "*" then productAgain again (.call op args) operands
      else .ok (.call op operands)) := by
  show (if _ then _ else _) = _
  rw [if_neg (by simp [hashable_of_isFormulaOperator formula]), if_pos formula]
  rfl

/-- Below other operators nothing is replaced, and one that cannot be looked up is refused. -/
theorem redistribute_call_of_other (again : Node → Except Failure Node) {op : Plain}
    (foreign : isFormulaOperator op = false) (args : List Node) :
    redistribute again (.call op args) = (Node.call op args).distribute := by
  show (if _ then _ else if _ then _ else _) = _
  rw [distribute, foreign]
  rfl

theorem distribute_other {op : Plain} (formula : isFormulaOperator op = true)
    (other : op ≠ .text "*") {args operands : List Node} (all : distributeAll args = .ok operands) :
    (Node.call op args).distribute = .ok (.call op operands) := by
  rw [distribute_call formula, all]
  exact if_neg other

theorem length_of_distributeAll {args results : List Node} (h : distributeAll args = .ok results) :
    results.length = args.length := by
  induction args generalizing results with
  | nil =>
    cases h
    rfl
  | cons arg args ih =>
    obtain ⟨first, rest, -, tail, rfl⟩ := distributeAll_cons_eq_ok h
    rw [List.length_cons, List.length_cons, ih tail]

theorem exists_of_mem_distributeAll {args results : List Node}
    (h : distributeAll args = .ok results) {arg : Node} (mem : arg ∈ args) :
    ∃ result, arg.distribute = .ok result := by
  induction args generalizing results with
  | nil => cases mem
  | cons first args ih =>
    obtain ⟨result, rest, head, tail, -⟩ := distributeAll_cons_eq_ok h
    rcases List.mem_cons.1 mem with rfl | mem
    · exact ⟨result, head⟩
    · exact ih tail mem

/-! ## Results stay as they are -/

/-- Operands that distribution leaves as they are make up sums that it leaves as they are. -/
theorem distributeAll_pair {a s : Node} (ha : a.distribute = .ok a) (hs : s.distribute = .ok s)
    (more : List Node) {rest : List Node} (hm : distributeAll more = .ok rest) :
    distributeAll (a :: s :: more) = .ok (a :: s :: rest) := by
  rw [distributeAll, ha, distributeAll, hs, hm]

theorem distribute_crossed {a s : Node} (ha : a.distribute = .ok a) (hs : s.distribute = .ok s) :
    (crossed a s).distribute = .ok (crossed a s) := by
  have interaction : (app "&" [a, s]).distribute = .ok (app "&" [a, s]) :=
    distribute_other rfl (by decide) (distributeAll_pair ha hs [] rfl)
  refine distribute_other rfl (by decide) (distributeAll_pair ha hs _ ?_)
  rw [distributeAll, interaction]
  rfl

theorem distribute_product {first : Node} {rest : List Node} (h : first.distribute = .ok first)
    (hs : distributeAll rest = .ok rest) :
    (product first rest).distribute = .ok (product first rest) := by
  induction rest generalizing first with
  | nil => exact h
  | cons second rest ih =>
    obtain ⟨result, results, head, tail, same⟩ := distributeAll_cons_eq_ok hs
    cases same
    exact distribute_crossed h (ih head tail)

mutual
/-- **Distribution changes nothing in its own results.** -/
theorem distribute_distribute : ∀ node result : Node, node.distribute = .ok result →
    result.distribute = .ok result
  | .call op args, result, h => by
    cases callDistributed h with
    | kept foreign => exact h
    | mapped formula other all =>
      exact distribute_other formula other (distributeAll_distributeAll args _ all)
    | replaced times all =>
      have operands := distributeAll_distributeAll args _ all
      obtain ⟨first, rest, head, tail, same⟩ := distributeAll_cons_eq_ok operands
      cases same
      exact distribute_product head tail
  | .symbol _, _, h => by cases h; rfl
  | .literal _, _, h => by cases h; rfl
  | .formula _ _, _, h => by cases h; rfl
  | .plain _, _, h => by cases h; rfl
theorem distributeAll_distributeAll : ∀ args results : List Node,
    distributeAll args = .ok results → distributeAll results = .ok results
  | [], _, h => by cases h; rfl
  | arg :: args, results, h => by
    obtain ⟨first, rest, head, tail, rfl⟩ := distributeAll_cons_eq_ok h
    rw [distributeAll, distribute_distribute arg first head,
      distributeAll_distributeAll args rest tail]
end

/-! ## The recursion -/

/-- Distributing a product of distributed operands folds it. -/
theorem distribute_times {a b : Node} {rest : List Node}
    (all : distributeAll (a :: b :: rest) = .ok (a :: b :: rest)) :
    (app "*" (a :: b :: rest)).distribute = .ok (product a (b :: rest)) := by
  rw [app, distribute_call rfl, all]
  rfl

/-- With operands that distribution leaves as they are, the recursion folds their product. -/
theorem productAgain_eq {again : Node → Except Failure Node}
    (settled : ∀ a b rest, distributeAll (a :: b :: rest) = .ok (a :: b :: rest) →
      again (app "*" (a :: b :: rest)) = .ok (product a (b :: rest)))
    (whole : Node) {operands : List Node} (all : distributeAll operands = .ok operands) :
    productAgain again whole operands = productOf whole operands := by
  match operands, all with
  | [], _ => rfl
  | [_], _ => rfl
  | [_, _], _ => rfl
  | first :: second :: third :: rest, all =>
    obtain ⟨_, _, _, tail, same⟩ := distributeAll_cons_eq_ok all
    cases same
    rw [productAgain, settled second third rest tail]
    rfl

/-- **Distribution obeys the recursion.** -/
theorem redistribute_distribute : redistribute distribute = distribute := by
  funext node
  cases node with
  | call op args =>
    by_cases formula : isFormulaOperator op = true
    · rw [redistribute_call _ formula, distribute_call formula, ← distributeAll_eq_mapM]
      cases all : distributeAll args with
      | error e => rfl
      | ok operands =>
        have settled := productAgain_eq (fun _ _ _ fixed => distribute_times fixed) (.call op args)
          (distributeAll_distributeAll args operands all)
        show (if _ then _ else _) = if _ then _ else _
        rw [settled]
    · exact redistribute_call_of_other _ (by simpa using formula) args
  | _ => rfl

variable {again : Node → Except Failure Node}

mutual
/-- The recursion leaves alone what distribution leaves alone. -/
theorem again_of_settled (recursion : redistribute again = again) :
    ∀ node : Node, node.distribute = .ok node → again node = .ok node
  | .call op args, h => by
    rw [← recursion]
    by_cases formula : isFormulaOperator op = true
    · rw [redistribute_call again formula]
      generalize result : Node.call op args = settled at h
      cases callDistributed (result ▸ h) with
      | kept foreign => rw [formula] at foreign; cases foreign
      | mapped _ other all =>
        cases result
        rw [mapM_again_of_settled recursion args all]
        exact if_neg other
      | replaced times _ =>
        -- A product stands for a sum, so no product is left alone.
        cases result
        exact absurd times (by decide)
    · exact (redistribute_call_of_other again (by simpa using formula) args).trans h
  | .symbol _, _ => by rw [← recursion]; rfl
  | .literal _, _ => by rw [← recursion]; rfl
  | .formula _ _, _ => by rw [← recursion]; rfl
  | .plain _, _ => by rw [← recursion]; rfl
theorem mapM_again_of_settled (recursion : redistribute again = again) :
    ∀ nodes : List Node, distributeAll nodes = .ok nodes → nodes.mapM again = .ok nodes
  | [], _ => rfl
  | node :: nodes, h => by
    obtain ⟨first, rest, head, tail, same⟩ := distributeAll_cons_eq_ok h
    cases same
    rw [List.mapM_cons, again_of_settled recursion node head,
      mapM_again_of_settled recursion nodes tail]
    rfl
end

/-- The recursion folds the product of distributed operands, one operand after the other. -/
theorem again_times (recursion : redistribute again = again) {a b : Node} {rest : List Node}
    (all : distributeAll (a :: b :: rest) = .ok (a :: b :: rest)) :
    again (app "*" (a :: b :: rest)) = .ok (product a (b :: rest)) := by
  induction rest generalizing a b with
  | nil =>
    rw [← recursion, app, redistribute_call again rfl, mapM_again_of_settled recursion _ all]
    rfl
  | cons c rest ih =>
    obtain ⟨_, _, _, tail, same⟩ := distributeAll_cons_eq_ok all
    cases same
    rw [← recursion, app, redistribute_call again rfl, mapM_again_of_settled recursion _ all]
    show (again (app "*" (b :: c :: rest)) >>= _) = _
    rw [ih tail]
    rfl

mutual
/-- **Only distribution obeys the recursion.** -/
theorem eq_distribute (recursion : redistribute again = again) :
    ∀ node : Node, again node = node.distribute
  | .call op args => by
    rw [← recursion]
    by_cases formula : isFormulaOperator op = true
    · rw [redistribute_call again formula, distribute_call formula,
        mapM_eq_distributeAll recursion args]
      cases all : distributeAll args with
      | error e => rfl
      | ok operands =>
        have settled := productAgain_eq (fun _ _ _ fixed => again_times recursion fixed)
          (.call op args) (distributeAll_distributeAll args operands all)
        show (if _ then _ else _) = if _ then _ else _
        rw [settled]
    · exact redistribute_call_of_other again (by simpa using formula) args
  | .symbol _ => by rw [← recursion]; rfl
  | .literal _ => by rw [← recursion]; rfl
  | .formula _ _ => by rw [← recursion]; rfl
  | .plain _ => by rw [← recursion]; rfl
theorem mapM_eq_distributeAll (recursion : redistribute again = again) :
    ∀ args : List Node, args.mapM again = distributeAll args
  | [] => rfl
  | arg :: args => by
    rw [distributeAll_eq_mapM, List.mapM_cons, List.mapM_cons, eq_distribute recursion arg,
      mapM_eq_distributeAll recursion args, distributeAll_eq_mapM]
end

/-! ## Failures -/

/-- Where distribution succeeds, every product that is reached has two operands. -/
theorem two_le_length {node result : Node} (h : node.distribute = .ok result) {args : List Node}
    (reached : node.Reaches isFormulaOperator (app "*" args)) : 2 ≤ args.length := by
  generalize target : app "*" args = product at reached
  induction reached generalizing result with
  | here node =>
    subst target
    cases callDistributed h with
    | kept foreign => cases foreign
    | mapped _ other _ => exact absurd rfl other
    | replaced _ all =>
      have size := length_of_distributeAll all
      rw [List.length_cons, List.length_cons] at size
      omega
  | inside passes mem _ ih =>
    cases callDistributed h with
    | kept foreign => rw [passes] at foreign; cases foreign
    | mapped _ _ all =>
      obtain ⟨operand, done⟩ := exists_of_mem_distributeAll all mem
      exact ih done target
    | replaced _ all =>
      obtain ⟨operand, done⟩ := exists_of_mem_distributeAll all mem
      exact ih done target

/-- A product of fewer than two operands that is reached from a node, and the failure it is. -/
def ShortProduct (node : Node) (e : Failure) : Prop :=
  ∃ args, node.Reaches isFormulaOperator (app "*" args) ∧ args.length < 2 ∧
    e = .malformed (app "*" args) "product of at least two operands"

theorem productOf_eq_error {whole : Node} {operands : List Node} {e : Failure}
    (h : productOf whole operands = .error e) : operands.length < 2 ∧
      e = .malformed whole "product of at least two operands" := by
  match operands, h with
  | [], h => cases h; exact ⟨by decide, rfl⟩
  | [_], h => cases h; exact ⟨by simp, rfl⟩

mutual
/-- Where distribution fails, a product of fewer than two operands is reached. -/
theorem shortProduct_of_distribute : ∀ (node : Node) (e : Failure), node.hasTextOperators = true →
    node.distribute = .error e → node.ShortProduct e
  | .call op args, e, named, h => by
    obtain ⟨⟨name, rfl⟩, all_named⟩ := hasTextOperators_call named
    by_cases formula : isFormulaOperator (.text name) = true
    · rw [distribute_call formula] at h
      cases all : distributeAll args with
      | error e' =>
        rw [all] at h
        cases h
        obtain ⟨arg, mem, short, reached, rest⟩ :=
          shortProduct_of_distributeAll args e all_named all
        exact ⟨short, .inside formula mem reached, rest⟩
      | ok operands =>
        rw [all] at h
        by_cases times : Plain.text name = .text "*"
        · have failed := productOf_eq_error ((if_pos times).symm.trans h)
          rw [length_of_distributeAll all] at failed
          cases times
          exact ⟨args, .here _, failed⟩
        · cases (if_neg times).symm.trans h
    · rw [distribute, if_neg (by simp [Plain.hashable]), if_neg formula] at h
      cases h
  | .symbol _, _, _, h => by cases h
  | .literal _, _, _, h => by cases h
  | .formula _ _, _, _, h => by cases h
  | .plain _, _, _, h => by cases h
theorem shortProduct_of_distributeAll : ∀ (args : List Node) (e : Failure),
    haveTextOperators args = true → distributeAll args = .error e → ∃ arg ∈ args, arg.ShortProduct e
  | [], _, _, h => by cases h
  | arg :: args, e, named, h => by
    simp only [haveTextOperators, Bool.and_eq_true] at named
    cases head : arg.distribute with
    | error e' =>
      rw [distributeAll, head] at h
      cases h
      exact ⟨arg, List.mem_cons_self, shortProduct_of_distribute arg e named.1 head⟩
    | ok first =>
      cases tail : distributeAll args with
      | error e' =>
        rw [distributeAll, head, tail] at h
        cases h
        obtain ⟨later, mem, short⟩ := shortProduct_of_distributeAll args e named.2 tail
        exact ⟨later, List.mem_cons_of_mem _ mem, short⟩
      | ok rest =>
        rw [distributeAll, head, tail] at h
        cases h
end

/-! ## The fold -/

/-- The product of operands is their right fold. -/
theorem product_eq_foldr (first last : Node) (rest : List Node) :
    product first (rest ++ [last]) = (first :: rest).foldr crossed last := by
  induction rest generalizing first with
  | nil => rfl
  | cons second rest ih =>
    rw [List.cons_append, product, ih]
    rfl

theorem productOf_append (whole last : Node) {operands : List Node} (some_before : operands ≠ []) :
    productOf whole (operands ++ [last]) = .ok (operands.foldr crossed last) := by
  match operands, some_before with
  | [first], _ => rfl
  | first :: second :: rest, _ =>
    exact congrArg Except.ok (product_eq_foldr first last (second :: rest))

/-- A product is distributed to the right fold of its distributed operands. -/
theorem distribute_fold {args : List Node} (some_before : args ≠ []) (last : Node) :
    (app "*" (args ++ [last])).distribute = (do
      let operands ← args.mapM distribute
      let others ← last.distribute
      return operands.foldr crossed others) := by
  rw [app, distribute_call rfl, distributeAll_eq_mapM, List.mapM_append]
  cases all : args.mapM distribute with
  | error e => rfl
  | ok operands =>
    have size := length_of_distributeAll ((distributeAll_eq_mapM args).trans all)
    have some_operand : operands ≠ [] := by
      rintro rfl
      exact some_before (List.length_eq_zero_iff.1 size.symm)
    rw [List.mapM_cons]
    cases last.distribute with
    | error e => rfl
    | ok others => exact productOf_append _ others some_operand

/-- What it means that a function distributes products by a fold. -/
structure IsRightFold (distribute' : Node → Except Failure Node) : Prop where
  /-- Whatever is no call stays. -/
  leaf : ∀ node : Node, (∀ op args, node ≠ .call op args) → distribute' node = .ok node
  /-- Calls of operators without a meaning in formulas stay. -/
  foreign : ∀ (op : String) (args : List Node), isFormulaOperator (.text op) = false →
    distribute' (app op args) = .ok (app op args)
  /-- Below every operator but that of products the operands are distributed. -/
  mapped : ∀ (op : String) (args : List Node), isFormulaOperator (.text op) = true → op ≠ "*" →
    distribute' (app op args) = app op <$> args.mapM distribute'
  /-- Of two operands or more the right fold is taken. -/
  folded : ∀ (args : List Node) (last : Node), args ≠ [] →
    distribute' (app "*" (args ++ [last])) = (do
      let operands ← args.mapM distribute'
      let others ← distribute' last
      return operands.foldr crossed others)
  /-- A product of fewer operands that is reached below formula operators is malformed. -/
  malformed : ∀ node : Node, node.hasTextOperators = true →
    ((∃ found expected, distribute' node = .error (.malformed found expected)) ↔
      ∃ args, node.Reaches isFormulaOperator (app "*" args) ∧ args.length < 2)
  /-- There is no other failure. -/
  shortProduct : ∀ (node : Node) (e : Failure), node.hasTextOperators = true →
    distribute' node = .error e → node.ShortProduct e
  /-- In a result no product is reached below formula operators. -/
  no_product : ∀ node result : Node, distribute' node = .ok result →
    ∀ args, ¬result.Reaches isFormulaOperator (app "*" args)
  /-- A result stays. -/
  settled : ∀ node result : Node, distribute' node = .ok result → distribute' result = .ok result

/-- **Distribution folds products from the right**, and it is the only function that obeys the
recursion which distributes the product of the operands but the first once more. -/
theorem isRightFold_distribute :
    (∀ again : Node → Except Failure Node, redistribute again = again ↔ again = distribute) ∧
      IsRightFold distribute := by
  refine ⟨fun again => ⟨fun recursion => funext (eq_distribute recursion), ?_⟩, ?_⟩
  · rintro rfl
    exact redistribute_distribute
  · refine ⟨fun node no_call => ?_, fun op args foreign => ?_, fun op args formula other => ?_,
      fun args last some_before => distribute_fold some_before last, fun node named => ⟨?_, ?_⟩,
      shortProduct_of_distribute, fun node result done => ?_, distribute_distribute⟩
    · cases node with
      | call op args => exact absurd rfl (no_call op args)
      | _ => rfl
    · rw [app, distribute, if_neg (by simp [Plain.hashable]), foreign]
      rfl
    · have another : Plain.text op ≠ .text "*" := fun same => other (Plain.text.inj same)
      rw [app, distribute_call formula, distributeAll_eq_mapM]
      cases args.mapM distribute with
      | error e => rfl
      | ok operands => exact if_neg another
    · rintro ⟨found, expected, failed⟩
      obtain ⟨args, reached, short, -⟩ := shortProduct_of_distribute node _ named failed
      exact ⟨args, reached, short⟩
    · rintro ⟨args, reached, short⟩
      cases done : node.distribute with
      | ok result => exact absurd (two_le_length done reached) (by omega)
      | error e =>
        obtain ⟨_, -, -, rfl⟩ := shortProduct_of_distribute node e named done
        exact ⟨_, _, rfl⟩
    · exact not_reaches_product (isDistributed_distribute node result done)

/-- A product of nothing inside a function, beside a product of four with another one in it. -/
def guardedCrossing : Node :=
  app "-" [app "log" [app "*" []], app "*" [var "a", app "*" [var "b", var "c"], var "d", var "e"]]

/-- Only the products outside the function are replaced, and none of them is too short. -/
theorem isRightFold_distribute_guardedCrossing : guardedCrossing.hasTextOperators = true ∧
    (¬∃ args, guardedCrossing.Reaches isFormulaOperator (app "*" args) ∧ args.length < 2) ∧
    guardedCrossing.distribute = .ok (app "-" [app "log" [app "*" []],
      crossed (var "a")
        (crossed (crossed (var "b") (var "c")) (crossed (var "d") (var "e")))]) := by
  have named : guardedCrossing.hasTextOperators = true := by decide
  refine ⟨named, fun short => ?_, rfl⟩
  obtain ⟨found, expected, failed⟩ := (isRightFold_distribute.2.malformed _ named).2 short
  cases failed

end ModelFormula.Node
