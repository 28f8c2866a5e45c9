import ModelFormula.Proofs.Render.Words

/-!
# Operands at a level of precedence

Formula text joins operands by operators.  Operators of one precedence join a row of operands, in which
those stand without brackets whose own operators bind more strongly, and the first one also where it is a
row of the same precedence and goes on.

* `Node.isLegible` — whether an expression can be told from its text.
* `Node.textAt` — the text of an expression among operators of a precedence.
* `Node.toList_text_row` — the text of an operator between its operands.
* `Node.JoinedAt` — the operands that the operators of a precedence join; `Node.exists_joinedAt`.
* `Node.JoinedAt.exists_call` — where the later operands come from.
* `Node.JoinedAt.textAt_eq` — the text of an expression is the row of its operands.
* `Node.JoinedAt.unique` — a legible expression is told by its row.
-/

set_option autoImplicit false

namespace ModelFormula.Node

/-! ## Legible expressions -/

/-- Whether a node is a call of an operator with several operands. -/
def chains (op : Plain) : Node → Bool
  | .call inner args => decide (inner = op) && decide (2 ≤ args.length)
  | _ => false

/-- Whether a call of several operands shows in its text how it is grouped: no operand of a chainable
operator is such a call of the same operator, and of `-` and `/` the first one is not. -/
def showsGrouping (op : Plain) (args : List Node) : Bool :=
  decide (args.length < 2) ||
    ((!isChainable op || args.all fun arg => !chains op arg) &&
      (!(decide (op = .text "-") || decide (op = .text "/")) ||
        args.head?.all fun arg => !chains op arg))

mutual
/-- Whether an expression can be told from its text: names are words, literals are whole numbers that are
not negative, and every call shows how it is grouped. -/
def isLegible : Node → Bool
  | .symbol (.text name) => Text.isWord name
  | .literal (.int n) => decide (0 ≤ n)
  | .call (.text op) args =>
    ((precedence? (.text op)).isSome || Text.isWord op) && showsGrouping (.text op) args &&
      areLegible args
  | _ => false
def areLegible : List Node → Bool
  | [] => true
  | arg :: args => arg.isLegible && areLegible args
end

theorem areLegible_iff (nodes : List Node) :
    areLegible nodes = true ↔ ∀ node ∈ nodes, node.isLegible = true := by
  induction nodes with
  | nil => simp [areLegible]
  | cons node nodes ih => simp [areLegible, ih]

/-! ## Text at a level -/

/-- The text of an expression among operators that bind as strongly as `p`: one whose own operator binds
more weakly stands in brackets. -/
def textAt (p : Nat) (node : Node) : List Char :=
  if node.infix?.any (· < p) then '(' :: (node.text.toList ++ [')']) else node.text.toList

theorem toList_parenthesized (s : String) :
    (parenthesized s).toList = '(' :: (s.toList ++ [')']) := by
  simp [parenthesized]

/-- The text of operators and operands that follow a first operand. -/
def laterText (p : Nat) (later : List (Plain × Node)) : List Char :=
  later.flatMap fun o => (separator o.1).toList ++ textAt (p + 1) o.2

/-- An infix call has at least two operands, and its operator a precedence. -/
theorem infix?_call_eq_some {op : Plain} {args : List Node} {p : Nat} :
    infix? (.call op args) = some p ↔ 2 ≤ args.length ∧ precedence? op = some p := by
  by_cases several : 2 ≤ args.length <;> simp [infix?, several]

theorem infix?_bounds {node : Node} {q : Nat} (h : node.infix? = some q) : 1 ≤ q ∧ q ≤ 5 := by
  cases node with
  | call op args =>
    obtain ⟨c, operator⟩ := operator_of_precedence? (infix?_call_eq_some.1 h).2
    exact operator.bounds
  | _ => cases h

/-! ## Brackets -/

theorem toList_ite_parenthesized (b : Bool) (node : Node) :
    (if b then parenthesized node.text else node.text).toList =
      if b then '(' :: (node.text.toList ++ [')']) else node.text.toList := by
  cases b with
  | false => rfl
  | true => exact toList_parenthesized _

/-- The first operand stands in brackets if it binds more weakly, and below a power also if it is a
power. -/
theorem needsParens_first (op : Plain) (p : Nat) (arg : Node) :
    needsParens op p true arg = arg.infix?.any (· < if op = .text "^" then p + 1 else p) := by
  cases arg with
  | call inner args =>
    cases bound : infix? (.call inner args) with
    | none => simp [needsParens, bound]
    | some q =>
      rw [Bool.eq_iff_iff]
      by_cases power : op = .text "^"
      · simp only [needsParens, bound, power, decide_true, Bool.or_true, Bool.and_true,
          Bool.or_eq_true, decide_eq_true_eq, beq_iff_eq, if_true, Option.any_some]
        omega
      · simp [needsParens, bound, power]
  | _ => rfl

/-- A later operand stands in brackets if it does not bind more strongly: chains are not nested. -/
theorem needsParens_later {op : Plain} (p : Nat) {arg : Node}
    (grouped : isChainable op = true → chains op arg = false) :
    needsParens op p false arg = arg.infix?.any (· < p + 1) := by
  cases arg with
  | call inner args =>
    cases bound : infix? (.call inner args) with
    | none => simp [needsParens, bound]
    | some q =>
      have apart : ¬(inner = op ∧ isChainable op = true) := by
        rintro ⟨rfl, chainable⟩
        have several := (infix?_call_eq_some.1 bound).1
        have single := grouped chainable
        simp [chains, several] at single
      have bracketed : (!(decide (inner = op) && isChainable op)) = true := by
        simpa [imp_iff_not_or] using apart
      rw [Bool.eq_iff_iff]
      simp only [needsParens, bound, bracketed, Bool.not_false, Bool.and_self, Bool.true_or,
        Bool.and_true, Bool.or_eq_true, decide_eq_true_eq, beq_iff_eq, Option.any_some]
      omega
  | _ => rfl

theorem intercalate_cons {α : Type} (sep x : List α) (xs : List (List α)) :
    sep.intercalate (x :: xs) = x ++ xs.flatMap (sep ++ ·) := by
  induction xs generalizing x with
  | nil => simp
  | cons y ys ih =>
    rw [List.intercalate_cons_cons, ih, List.flatMap_cons]
    simp only [List.append_assoc]

/-- The texts of later operands. -/
theorem map_operandTexts (op : Plain) (p : Nat) {args : List Node}
    (grouped : isChainable op = true → ∀ arg ∈ args, chains op arg = false) :
    (operandTexts op p false args).map String.toList = args.map (textAt (p + 1)) := by
  induction args with
  | nil => rfl
  | cons arg args ih =>
    have head := needsParens_later p fun chainable => grouped chainable arg List.mem_cons_self
    rw [operandTexts, List.map_cons, ih fun chainable other ho =>
      grouped chainable other (List.mem_cons_of_mem _ ho), toList_ite_parenthesized, head]
    rfl

theorem text_row {op : Plain} {p : Nat} {first : Node} {more : List Node}
    (h : infix? (.call op (first :: more)) = some p) : (Node.call op (first :: more)).text =
      (separator op).intercalate (operandTexts op p true (first :: more)) := by
  obtain ⟨several, operator⟩ := infix?_call_eq_some.1 h
  match more, several with
  | second :: rest, _ =>
    rw [text, operator]
    · simp
    · simp

/-- **The text of an infix call**: its first operand, and the later ones with the operator before each. -/
theorem toList_text_row {op : Plain} {p : Nat} {first : Node} {more : List Node}
    (h : infix? (.call op (first :: more)) = some p)
    (grouped : isChainable op = true → ∀ arg ∈ more, chains op arg = false) :
    (Node.call op (first :: more)).text.toList =
      textAt (if op = .text "^" then p + 1 else p) first ++
        laterText p (more.map fun arg => (op, arg)) := by
  rw [text_row h, String.toList_intercalate, operandTexts, List.map_cons, intercalate_cons,
    map_operandTexts op p grouped, toList_ite_parenthesized, needsParens_first, laterText,
    List.flatMap_map, List.flatMap_map]
  rfl

/-! ## Operands at a level -/

/-- The operands that operators of precedence `p` join in the text of an expression: the first one, and
the later ones with the operators before them.  Only a first operand goes on with the row in which its
call stands; powers do not go on with others. -/
inductive JoinedAt (p : Nat) : Node → Node → List (Plain × Node) → Prop where
  | alone {node : Node} (h : node.infix? ≠ some p) : JoinedAt p node node []
  | power {first : Node} {more : List Node}
      (h : infix? (.call (.text "^") (first :: more)) = some p) :
      JoinedAt p (.call (.text "^") (first :: more)) first (more.map fun arg => (.text "^", arg))
  | row {op : Plain} {first leading : Node} {more : List Node} {later : List (Plain × Node)}
      (h : infix? (.call op (first :: more)) = some p) (no_power : op ≠ .text "^")
      (inner : JoinedAt p first leading later) :
      JoinedAt p (.call op (first :: more)) leading (later ++ more.map fun arg => (op, arg))

variable {p : Nat}

theorem exists_joinedAt (p : Nat) : ∀ node : Node, ∃ first later, JoinedAt p node first later
  | .call op (first :: more) => by
    by_cases bound : infix? (.call op (first :: more)) = some p
    · by_cases power : op = .text "^"
      · subst power
        exact ⟨_, _, .power bound⟩
      · obtain ⟨leading, later, inner⟩ := exists_joinedAt p first
        exact ⟨_, _, .row bound power inner⟩
    · exact ⟨_, _, .alone bound⟩
  | .call _ [] => ⟨_, _, .alone (by simp [infix?])⟩
  | .symbol _ => ⟨_, _, .alone (by simp [infix?])⟩
  | .literal _ => ⟨_, _, .alone (by simp [infix?])⟩
  | .formula _ _ => ⟨_, _, .alone (by simp [infix?])⟩
  | .plain _ => ⟨_, _, .alone (by simp [infix?])⟩

/-- What makes a call legible. -/
structure LegibleCall (op : Plain) (args : List Node) : Prop where
  operands : ∀ arg ∈ args, arg.isLegible = true
  chainable : 2 ≤ args.length → isChainable op = true → ∀ arg ∈ args, chains op arg = false
  leading : 2 ≤ args.length → op = .text "-" ∨ op = .text "/" →
    ∀ arg ∈ args.head?, chains op arg = false
  named : (∃ name, op = .text name ∧ Text.isWord name = true) ∨ ∃ c p, Operator op c p

theorem legibleCall_of_isLegible {op : Plain} {args : List Node}
    (h : (Node.call op args).isLegible = true) : LegibleCall op args := by
  cases op with
  | text name =>
    simp only [isLegible, showsGrouping, Bool.and_eq_true, Bool.or_eq_true, Bool.not_eq_true',
      decide_eq_true_eq, areLegible_iff, List.all_eq_true, Option.all_eq_true] at h
    obtain ⟨⟨named, grouped⟩, operands⟩ := h
    refine ⟨operands, fun several chainable => ?_, fun several left => ?_, ?_⟩
    · rcases grouped with few | ⟨free | apart, -⟩
      · omega
      · rw [chainable] at free
        cases free
      · exact apart
    · rcases grouped with few | ⟨-, free | apart⟩
      · omega
      · rcases left with left | left <;> simp [left] at free
      · exact apart
    · rcases named with operator | word
      · obtain ⟨p, found⟩ := Option.isSome_iff_exists.1 operator
        obtain ⟨c, operator⟩ := operator_of_precedence? found
        exact Or.inr ⟨c, p, operator⟩
      · exact Or.inl ⟨name, rfl, word⟩
  | _ => cases h

/-- The first operand of a row does not go on with it. -/
theorem LegibleCall.chains_first {op : Plain} {first : Node} {more : List Node}
    (h : LegibleCall op (first :: more)) (bound : infix? (.call op (first :: more)) = some p)
    (no_power : op ≠ .text "^") : chains op first = false := by
  obtain ⟨several, found⟩ := infix?_call_eq_some.1 bound
  obtain ⟨c, operator⟩ := operator_of_precedence? found
  cases operator with
  | minus => exact h.leading several (Or.inl rfl) first rfl
  | slash => exact h.leading several (Or.inr rfl) first rfl
  | power => exact absurd rfl no_power
  | _ => exact h.chainable several rfl first List.mem_cons_self

/-- A call in a row has an operand after its first one. -/
theorem more_ne_nil {op : Plain} {first : Node} {more : List Node}
    (bound : infix? (.call op (first :: more)) = some p) : more.map (fun arg => (op, arg)) ≠ [] := by
  intro none
  have several := (infix?_call_eq_some.1 bound).1
  rw [List.map_eq_nil_iff.1 none, List.length_singleton] at several
  omega

theorem sizeOf_lt_of_mem {op : Plain} {args : List Node} {arg : Node} (h : arg ∈ args) :
    sizeOf arg < sizeOf (Node.call op args) := by
  have := List.sizeOf_lt_of_mem h
  rw [Node.call.sizeOf_spec]
  omega

theorem laterText_append (p : Nat) (xs ys : List (Plain × Node)) :
    laterText p (xs ++ ys) = laterText p xs ++ laterText p ys := List.flatMap_append

namespace JoinedAt

variable {node first : Node} {later : List (Plain × Node)}

/-- **The text of an expression is the row of its operands.** -/
theorem textAt_eq (h : JoinedAt p node first later) (legible : node.isLegible = true) :
    textAt p node = textAt (p + 1) first ++ laterText p later := by
  have open_at : ∀ {op : Plain} {args : List Node}, infix? (.call op args) = some p →
      textAt p (.call op args) = (Node.call op args).text.toList := by
    intro op args bound
    simp [textAt, bound]
  induction h with
  | @alone node bound =>
    have same : node.infix?.any (· < p) = node.infix?.any (· < p + 1) := by
      cases level : node.infix? with
      | none => rfl
      | some q =>
        have apart : q ≠ p := fun same => bound (same ▸ level)
        exact decide_eq_decide.2 (by omega)
    simp [textAt, laterText, same]
  | power bound =>
    rw [open_at bound, toList_text_row bound (fun chainable => by cases chainable), if_pos rfl]
  | @row op first leading more later bound no_power _ ih =>
    have parts := legibleCall_of_isLegible legible
    have several := (infix?_call_eq_some.1 bound).1
    rw [open_at bound, toList_text_row bound fun chainable arg ha =>
        parts.chainable several chainable arg (List.mem_cons_of_mem _ ha),
      if_neg no_power, ih (parts.operands first List.mem_cons_self), laterText_append,
      List.append_assoc]

/-- The first operand is the expression itself or part of it. -/
theorem first_part (h : JoinedAt p node first later) :
    sizeOf first ≤ sizeOf node ∧ (node.isLegible = true → first.isLegible = true) := by
  induction h with
  | alone _ => exact ⟨Nat.le_refl _, id⟩
  | power _ =>
    exact ⟨(sizeOf_lt_of_mem List.mem_cons_self).le,
      fun legible => (legibleCall_of_isLegible legible).operands _ List.mem_cons_self⟩
  | row _ _ _ ih =>
    exact ⟨Nat.le_trans ih.1 (sizeOf_lt_of_mem List.mem_cons_self).le,
      fun legible => ih.2 ((legibleCall_of_isLegible legible).operands _ List.mem_cons_self)⟩

/-- **Every later operand comes from a call of the operator before it**, which is the expression itself or
part of it. -/
theorem exists_call (h : JoinedAt p node first later) : ∀ o ∈ later, ∃ head more, o.2 ∈ more ∧
    infix? (.call o.1 (head :: more)) = some p ∧
    sizeOf (Node.call o.1 (head :: more)) ≤ sizeOf node ∧
    (node.isLegible = true → (Node.call o.1 (head :: more)).isLegible = true) := by
  induction h with
  | alone _ => intro o ho; cases ho
  | power bound =>
    intro o ho
    obtain ⟨arg, ha, rfl⟩ := List.mem_map.1 ho
    exact ⟨_, _, ha, bound, Nat.le_refl _, id⟩
  | row bound _ _ ih =>
    intro o ho
    rcases List.mem_append.1 ho with ho | ho
    · obtain ⟨head, more, mem, found, size, keeps⟩ := ih o ho
      exact ⟨head, more, mem, found, Nat.le_trans size (sizeOf_lt_of_mem List.mem_cons_self).le,
        fun legible => keeps ((legibleCall_of_isLegible legible).operands _ List.mem_cons_self)⟩
    · obtain ⟨arg, ha, rfl⟩ := List.mem_map.1 ho
      exact ⟨_, _, ha, bound, Nat.le_refl _, id⟩

theorem operator (h : JoinedAt p node first later) : ∀ o ∈ later, ∃ c, Operator o.1 c p := by
  intro o ho
  obtain ⟨head, more, -, bound, -⟩ := h.exists_call o ho
  exact operator_of_precedence? (infix?_call_eq_some.1 bound).2

theorem legible (h : JoinedAt p node first later) (legible : node.isLegible = true) :
    first.isLegible = true ∧ ∀ o ∈ later, o.2.isLegible = true := by
  refine ⟨h.first_part.2 legible, fun o ho => ?_⟩
  obtain ⟨head, more, mem, -, -, keeps⟩ := h.exists_call o ho
  exact (legibleCall_of_isLegible (keeps legible)).operands _ (List.mem_cons_of_mem _ mem)

/-- The operands of a row are smaller than what they make up. -/
theorem smaller (h : JoinedAt p node first later) (bound : node.infix? = some p) :
    sizeOf first < sizeOf node ∧ ∀ o ∈ later, sizeOf o.2 < sizeOf node := by
  constructor
  · cases h with
    | alone other => exact absurd bound other
    | power _ => exact sizeOf_lt_of_mem List.mem_cons_self
    | row _ _ inner =>
      exact Nat.lt_of_le_of_lt inner.first_part.1 (sizeOf_lt_of_mem List.mem_cons_self)
  · intro o ho
    obtain ⟨head, more, mem, -, size, -⟩ := h.exists_call o ho
    exact Nat.lt_of_lt_of_le (sizeOf_lt_of_mem (List.mem_cons_of_mem _ mem)) size

/-- The last operator of a row is that of the call. -/
theorem chains_last (h : JoinedAt p node first later) :
    ∀ o ∈ later.getLast?, chains o.1 node = true := by
  have last : ∀ {op : Plain} {first : Node} {more : List Node} (earlier : List (Plain × Node)),
      infix? (.call op (first :: more)) = some p →
      ∀ o ∈ (earlier ++ more.map fun arg => (op, arg)).getLast?,
        chains o.1 (.call op (first :: more)) = true := by
    intro op first more earlier bound o ho
    rw [List.getLast?_append_of_ne_nil _ (more_ne_nil bound)] at ho
    obtain ⟨arg, -, rfl⟩ := List.mem_map.1 (List.mem_of_getLast? ho)
    simpa [chains] using (infix?_call_eq_some.1 bound).1
  cases h with
  | alone _ => simp
  | power bound => exact last [] bound
  | row bound _ _ => exact last _ bound

end JoinedAt

/-! ## Rows tell what they make up -/

theorem pair_injective (op : Plain) : Function.Injective fun arg : Node => (op, arg) :=
  fun _ _ same => (Prod.mk.inj same).2

theorem eq_nil_of_getLast? {op : Plain} {xs middle : List (Plain × Node)}
    (hx : ∀ o ∈ (xs ++ middle).getLast?, o.1 ≠ op) (hm : ∀ o ∈ middle, o.1 = op) : middle = [] := by
  by_contra some_middle
  have last := List.getLast?_eq_some_getLast some_middle
  rw [List.getLast?_append_of_ne_nil _ some_middle, last] at hx
  exact hx _ rfl (hm _ (List.getLast_mem some_middle))

/-- Where one operator is repeated at the end of two equal rows, and another one stands before it, the
repetitions are equal. -/
theorem append_map_inj {op : Plain} {xs ys : List (Plain × Node)} {as bs : List Node}
    (hx : ∀ o ∈ xs.getLast?, o.1 ≠ op) (hy : ∀ o ∈ ys.getLast?, o.1 ≠ op)
    (h : xs ++ as.map (fun arg => (op, arg)) = ys ++ bs.map fun arg => (op, arg)) :
    xs = ys ∧ as = bs := by
  have repeats : ∀ {cs : List Node}, ∀ o ∈ cs.map fun arg => (op, arg), o.1 = op := by
    intro cs o ho
    obtain ⟨arg, -, rfl⟩ := List.mem_map.1 ho
    rfl
  rcases List.append_eq_append_iff.1 h with ⟨middle, rfl, same⟩ | ⟨middle, rfl, same⟩
  · obtain rfl := eq_nil_of_getLast? hy fun o ho =>
      repeats o (same ▸ List.mem_append_left _ ho)
    exact ⟨(List.append_nil xs).symm, List.map_injective_iff.2 (pair_injective op) same⟩
  · obtain rfl := eq_nil_of_getLast? hx fun o ho =>
      repeats o (same ▸ List.mem_append_left _ ho)
    exact ⟨List.append_nil ys, (List.map_injective_iff.2 (pair_injective op) same).symm⟩

namespace JoinedAt

variable {first leading : Node} {later : List (Plain × Node)}

/-- A row of several operands ends with the operator of its call. -/
theorem later_ne_nil {node : Node} (h : JoinedAt p node first later) (bound : node.infix? = some p) :
    later ≠ [] := by
  cases h with
  | alone other => exact absurd bound other
  | power bound => exact more_ne_nil bound
  | row bound _ _ => exact List.append_ne_nil_of_right_ne_nil _ (more_ne_nil bound)

theorem same_operator {op op' : Plain} {args args' : List Node}
    (h : JoinedAt p (.call op args) first later) (h' : JoinedAt p (.call op' args') leading later)
    (several : later ≠ []) : op = op' := by
  have last := List.getLast?_eq_some_getLast several
  have e := h.chains_last _ last
  have f := h'.chains_last _ last
  simp only [chains, Bool.and_eq_true, decide_eq_true_eq] at e f
  exact e.1.trans f.1.symm

/-- The row of a first operand ends with another operator. -/
theorem last_ne {op : Plain} {more : List Node} (h : JoinedAt p first leading later)
    (legible : (Node.call op (first :: more)).isLegible = true)
    (bound : infix? (.call op (first :: more)) = some p) (no_power : op ≠ .text "^") :
    ∀ o ∈ later.getLast?, o.1 ≠ op := by
  rintro o ho rfl
  have apart := (legibleCall_of_isLegible legible).chains_first bound no_power
  rw [h.chains_last o ho] at apart
  cases apart

/-- **A legible expression is told by its row.** -/
theorem unique {e f : Node} (he : JoinedAt p e first later) (hf : JoinedAt p f first later)
    (legible_e : e.isLegible = true) (legible_f : f.isLegible = true) : e = f := by
  induction he generalizing f with
  | alone _ =>
    by_cases bound : f.infix? = some p
    · exact absurd rfl (hf.later_ne_nil bound)
    · generalize [] = later at hf
      cases hf with
      | alone _ => rfl
      | power bound' => exact absurd bound' bound
      | row bound' _ _ => exact absurd bound' bound
  | @power first more bound =>
    have he := JoinedAt.power bound
    have several := he.later_ne_nil bound
    generalize same : more.map (fun arg => (Plain.text "^", arg)) = later at hf he several
    cases hf with
    | alone _ => exact absurd rfl several
    | power _ =>
      obtain rfl := List.map_injective_iff.2 (pair_injective _) same
      rfl
    | row bound' no_power inner =>
      exact absurd (he.same_operator (.row bound' no_power inner) several).symm no_power
  | @row op first leading more later bound no_power inner ih =>
    have he := JoinedAt.row bound no_power inner
    have several := he.later_ne_nil bound
    generalize same : later ++ more.map (fun arg => (op, arg)) = whole at hf he several
    cases hf with
    | alone _ => exact absurd rfl several
    | power bound' =>
      exact absurd (he.same_operator (.power bound') several) no_power
    | row bound' no_power' inner' =>
      obtain rfl := he.same_operator (.row bound' no_power' inner') several
      obtain ⟨rfl, rfl⟩ := append_map_inj (inner.last_ne legible_e bound no_power)
        (inner'.last_ne legible_f bound' no_power') same
      have parts := legibleCall_of_isLegible legible_e
      have parts' := legibleCall_of_isLegible legible_f
      rw [ih inner' (parts.operands _ List.mem_cons_self) (parts'.operands _ List.mem_cons_self)]

end JoinedAt

end ModelFormula.Node
