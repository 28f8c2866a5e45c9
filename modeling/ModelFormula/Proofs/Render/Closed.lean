import ModelFormula.Proofs.Render.Operands

/-!
# Closed expressions

An expression is closed in a text where a row of operands stands in brackets.  What a closed expression
begins with tells which kind of expression it is, apart from the names of functions.

* `Node.argsText` — the text of the arguments of a function.
* `Node.toList_text_function`, `Node.toList_text_sign`, `Node.toList_text_number` — the texts of
  expressions that are no rows.
* `Node.Closed` — the texts of closed expressions, by what they begin with; `Node.exists_closed`.
* `Node.textAt_one_ne_close` — no expression begins with a closing bracket.
-/

set_option autoImplicit false

namespace ModelFormula.Node

/-! ## Texts of expressions that are no rows -/

/-- The text of an argument after the first one. -/
def laterArg (arg : Node) : List Char := ',' :: ' ' :: textAt 1 arg

/-- The text of the arguments of a function. -/
def argsText : List Node → List Char
  | [] => []
  | arg :: args => textAt 1 arg ++ args.flatMap laterArg

/-- Every operator binds at least as strongly as `|`. -/
theorem textAt_one (node : Node) : textAt 1 node = node.text.toList := by
  have open_at : node.infix?.any (· < 1) = false := by
    cases bound : node.infix? with
    | none => rfl
    | some q => exact decide_eq_false (Nat.not_lt.2 (infix?_bounds bound).1)
  rw [textAt, open_at, if_neg Bool.false_ne_true]

/-- No operator binds more strongly than `^`. -/
theorem textAt_six (node : Node) :
    textAt 6 node = if node.infix?.isSome then '(' :: (node.text.toList ++ [')'])
      else node.text.toList := by
  have closed : node.infix?.any (· < 6) = node.infix?.isSome := by
    cases bound : node.infix? with
    | none => rfl
    | some q => exact decide_eq_true (Nat.lt_succ_of_le (infix?_bounds bound).2)
  rw [textAt, closed]

theorem map_toList_textList (args : List Node) :
    (textList args).map String.toList = args.map (textAt 1) := by
  induction args with
  | nil => rfl
  | cons arg args ih => rw [textList, List.map_cons, List.map_cons, ih, textAt_one]

theorem toList_intercalate_textList (args : List Node) :
    (", ".intercalate (textList args)).toList = argsText args := by
  rw [String.toList_intercalate, map_toList_textList]
  cases args with
  | nil => rfl
  | cons arg args =>
    rw [List.map_cons, intercalate_cons, List.flatMap_map]
    rfl

/-- Whether a call is written as a sign before its operand. -/
def isSign (op : Plain) (args : List Node) : Bool :=
  (decide (op = .text "-") || decide (op = .text "+")) && decide (args.length = 1)

/-- A sign that is not written before an operand has none. -/
theorem eq_nil_of_no_sign {op : Plain} {args : List Node} (signed : op = .text "-" ∨ op = .text "+")
    (few : args.length < 2) (no_sign : isSign op args = false) : args = [] := by
  match args with
  | [] => rfl
  | [arg] => rcases signed with rfl | rfl <;> cases no_sign
  | _ :: _ :: _ => simp at few

/-- **The text of a call that is neither a row nor a sign**: its arguments in brackets. -/
theorem toList_text_function {op : Plain} {args : List Node}
    (no_row : infix? (.call op args) = none) (no_sign : isSign op args = false) :
    (Node.call op args).text.toList = op.asText.toList ++ '(' :: (argsText args ++ [')']) := by
  match args with
  | [] =>
    cases bound : precedence? op <;> simp [text, bound, textList, argsText]
  | [arg] =>
    have named : ¬(op = .text "-" ∨ op = .text "+") := by simpa [isSign] using no_sign
    simp [text, named, argsText, textAt_one]
  | first :: second :: rest =>
    have unbound : precedence? op = none := by simpa [infix?] using no_row
    rw [text, unbound]
    · simp [← toList_intercalate_textList]
    · simp

/-- The text of a sign before its operand. -/
theorem toList_text_sign {op : Plain} {c : Char} {p : Nat} (operator : Operator op c p)
    (signed : op = .text "-" ∨ op = .text "+") (arg : Node) :
    (Node.call op [arg]).text.toList = c :: textAt 6 arg := by
  have written : (decide (op = .text "-") || decide (op = .text "+")) = true := by simpa using signed
  rw [text, if_pos written, String.toList_append, operator.asText_eq, toList_ite_parenthesized,
    textAt_six]
  rfl

theorem toList_text_number (n : Nat) :
    (Node.literal (.int n)).text.toList = Nat.toDigits 10 n :=
  Nat.toList_repr

/-! ## Closed expressions -/

/-- What an expression begins with. -/
inductive Lead where
  | letter
  | digit
  | sign
  | bracket
  | close
  deriving DecidableEq

/-- What a character begins. -/
def leadOf (c : Char) : Lead :=
  if c.isDigit then .digit
  else if c = '(' then .bracket
  else if c = ')' then .close
  else if Text.isMark c then .sign
  else .letter

/-- The texts of closed expressions that are legible, by what they begin with. -/
inductive Closed : Lead → Node → List Char → Prop where
  | symbol {name : String} (word : Text.isWord name = true) :
      Closed .letter (.symbol (.text name)) name.toList
  | named {name : String} {args : List Node} (word : Text.isWord name = true) :
      Closed .letter (.call (.text name) args) (name.toList ++ '(' :: (argsText args ++ [')']))
  | number (n : Nat) : Closed .digit (.literal (.int n)) (Nat.toDigits 10 n)
  | sign {op : Plain} {c : Char} {p : Nat} {arg : Node} (operator : Operator op c p)
      (signed : op = .text "-" ∨ op = .text "+") :
      Closed .sign (.call op [arg]) (c :: textAt 6 arg)
  | function {op : Plain} {c : Char} {p : Nat} {args : List Node} (operator : Operator op c p)
      (few : args.length < 2) (no_sign : isSign op args = false) :
      Closed .sign (.call op args) (c :: '(' :: (argsText args ++ [')']))
  | row {node : Node} (h : node.infix?.isSome = true) :
      Closed .bracket node ('(' :: (textAt 1 node ++ [')']))

theorem leadOf_word {name : String} (word : Text.isWord name = true) :
    ∃ c cs, name.toList = c :: cs ∧ leadOf c = .letter := by
  unfold Text.isWord at word
  split at word
  · cases word
  · rename_i c cs chars
    simp only [List.all_cons, Bool.and_eq_true, Bool.not_eq_true'] at word
    obtain ⟨no_digit, no_mark, -⟩ := word
    have no_open : c ≠ '(' := by rintro rfl; cases no_mark
    have no_close : c ≠ ')' := by rintro rfl; cases no_mark
    exact ⟨c, cs, chars, by simp [leadOf, no_digit, no_mark, no_open, no_close]⟩

theorem leadOf_digits (n : Nat) : ∃ c cs, Nat.toDigits 10 n = c :: cs ∧ leadOf c = .digit := by
  obtain ⟨c, cs, chars⟩ := List.exists_cons_of_ne_nil (@Nat.toDigits_ne_nil n 10)
  have digit : c.isDigit = true :=
    Nat.isDigit_of_mem_toDigits (by decide) (by decide) (chars ▸ List.mem_cons_self)
  exact ⟨c, cs, chars, by simp [leadOf, digit]⟩

theorem leadOf_operator {op : Plain} {c : Char} {p : Nat} (operator : Operator op c p) :
    leadOf c = .sign := by
  cases operator <;> rfl

theorem Closed.exists_lead {lead : Lead} {node : Node} {t : List Char} (h : Closed lead node t) :
    ∃ c cs, t = c :: cs ∧ leadOf c = lead := by
  cases h with
  | symbol word => exact leadOf_word word
  | named word =>
    obtain ⟨c, cs, chars, lead⟩ := leadOf_word word
    exact ⟨c, _, by rw [chars]; rfl, lead⟩
  | number n => exact leadOf_digits n
  | sign operator _ => exact ⟨_, _, rfl, leadOf_operator operator⟩
  | function operator _ _ => exact ⟨_, _, rfl, leadOf_operator operator⟩
  | row _ => exact ⟨_, _, rfl, rfl⟩

theorem Closed.lead_ne_close {lead : Lead} {node : Node} {t : List Char} (h : Closed lead node t) :
    lead ≠ .close := by
  cases h <;> decide

theorem exists_closed_call {op : Plain} {args : List Node}
    (legible : (Node.call op args).isLegible = true) (no_row : infix? (.call op args) = none) :
    ∃ lead, Closed lead (.call op args) (Node.call op args).text.toList := by
  by_cases sign : isSign op args = true
  · simp only [isSign, Bool.and_eq_true, Bool.or_eq_true, decide_eq_true_eq] at sign
    obtain ⟨signed, single⟩ := sign
    obtain ⟨arg, rfl⟩ := List.length_eq_one_iff.1 single
    obtain ⟨c, operator⟩ : ∃ c, Operator op c 2 := by
      rcases signed with rfl | rfl
      · exact ⟨_, .minus⟩
      · exact ⟨_, .plus⟩
    rw [toList_text_sign operator signed]
    exact ⟨_, .sign operator signed⟩
  · have no_sign := Bool.eq_false_iff.2 sign
    rw [toList_text_function no_row no_sign]
    rcases (legibleCall_of_isLegible legible).named with ⟨name, rfl, word⟩ | ⟨c, p, operator⟩
    · exact ⟨_, .named word⟩
    · have few : args.length < 2 := by simpa [infix?, operator.precedence?_eq] using no_row
      rw [operator.asText_eq]
      exact ⟨_, .function operator few no_sign⟩

/-- **Every legible expression has one of these texts where it is closed.** -/
theorem exists_closed {node : Node} (legible : node.isLegible = true) :
    ∃ lead, Closed lead node (textAt 6 node) := by
  by_cases row : node.infix?.isSome = true
  · rw [textAt_six, if_pos row, ← textAt_one]
    exact ⟨_, .row row⟩
  · rw [textAt_six, if_neg row]
    cases node with
    | symbol name =>
      cases name with
      | text name => exact ⟨_, .symbol legible⟩
      | _ => cases legible
    | literal value =>
      cases value with
      | int n =>
        obtain ⟨n, rfl⟩ := Int.eq_ofNat_of_zero_le (of_decide_eq_true legible)
        rw [toList_text_number]
        exact ⟨_, .number n⟩
      | _ => cases legible
    | call op args => exact exists_closed_call legible (Option.not_isSome_iff_eq_none.1 row)
    | formula _ _ => cases legible
    | plain _ => cases legible

/-- No legible expression begins with a closing bracket: a row begins like its first operand. -/
theorem exists_lead (k : Nat) : ∀ (p : Nat) (node : Node), p + k = 6 → node.isLegible = true →
    ∃ c cs, textAt p node = c :: cs ∧ leadOf c ≠ .close := by
  induction k with
  | zero =>
    intro p node level legible
    obtain rfl : p = 6 := level
    obtain ⟨lead, closed⟩ := exists_closed legible
    obtain ⟨c, cs, chars, begins⟩ := closed.exists_lead
    exact ⟨c, cs, chars, begins ▸ closed.lead_ne_close⟩
  | succ k ih =>
    intro p node level legible
    obtain ⟨first, later, row⟩ := exists_joinedAt p node
    obtain ⟨c, cs, chars, begins⟩ := ih (p + 1) first (by omega) (row.legible legible).1
    exact ⟨c, cs ++ laterText p later, by rw [row.textAt_eq legible, chars]; rfl, begins⟩

theorem textAt_one_ne_close {node : Node} (legible : node.isLegible = true) (r s : List Char) :
    textAt 1 node ++ r ≠ ')' :: s := by
  obtain ⟨c, cs, chars, begins⟩ := exists_lead 5 1 node rfl legible
  rw [chars]
  intro same
  obtain ⟨rfl, -⟩ := List.cons.inj same
  exact begins rfl

/-- Where two texts of closed expressions stand at one place, the expressions have one lead. -/
theorem Closed.lead_eq {lead lead' : Lead} {e f : Node} {t u r s : List Char} (he : Closed lead e t)
    (hf : Closed lead' f u) (same : t ++ r = u ++ s) : lead = lead' := by
  obtain ⟨c, cs, rfl, begins⟩ := he.exists_lead
  obtain ⟨d, ds, rfl, begins'⟩ := hf.exists_lead
  obtain ⟨rfl, -⟩ := List.cons.inj same
  exact begins.symm.trans begins'

/-- In brackets there is something. -/
theorem textAt_six_ne_brackets {node : Node} (legible : node.isLegible = true) (r s : List Char) :
    textAt 6 node ++ r ≠ '(' :: ')' :: s := by
  obtain ⟨lead, closed⟩ := exists_closed legible
  obtain ⟨c, cs, chars, begins⟩ := closed.exists_lead
  intro same
  obtain rfl : c = '(' := by
    rw [chars] at same
    exact (List.cons.inj same).1
  -- Only a row begins with a bracket, and after it stands the first operand.
  generalize textAt 6 node = t at closed same
  cases begins.symm.trans (rfl : leadOf '(' = .bracket)
  cases closed with
  | row _ =>
    rw [List.cons_append, List.append_assoc] at same
    exact textAt_one_ne_close legible _ _ (List.cons.inj same).2

end ModelFormula.Node
