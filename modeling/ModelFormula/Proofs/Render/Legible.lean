import ModelFormula.Node.Render
import ModelFormula.Proofs.Render.Closed
import ModelFormula.Term.Flatten

/-!
# Legible expressions are told by their texts

No two legible expressions have one text.  The text of an expression at a level of precedence tells the
expression and where it ends, if what follows does not go on with it: a row of operands at this level is
told by the operands, which stand at the next level, and at the last level brackets, names, signs and
digits tell what they begin.

* `Node.Told` — what it means that an expression is told by its text.
* `Node.flatMap_inj` — rows of chunks that are told are told.
* `Node.told_of_joinedAt` — rows of operands; `Node.argsText_inj` — arguments of functions.
* `Node.told_of_smaller` — from one level of precedence to the one below.
* `Node.told_six` — expressions in brackets, from smaller ones; `Node.told_of_isLegible`.
* `Node.eq_of_render_eq` — rendering is one-to-one on legible expressions.
-/

set_option autoImplicit false

namespace ModelFormula

namespace Node

/-! ## Rows -/

/-- What stands before the end of an expression among operators of precedence `p` tells the expression,
and where it ends. -/
def Told (p : Nat) (node : Node) : Prop :=
  ∀ other : Node, other.isLegible = true → ∀ r s, Stops p r → Stops p s →
    textAt p node ++ r = textAt p other ++ s → node = other ∧ r = s

variable {p : Nat}

/-- A text that goes on with chunks that stop, and stops after them, stops. -/
theorem stops_flatMap {α : Type} {chunk : α → List Char} {xs : List α} {r : List Char}
    (opens : ∀ x ∈ xs, ∀ t, Stops p (chunk x ++ t)) (stop : Stops p r) :
    Stops p (xs.flatMap chunk ++ r) := by
  cases xs with
  | nil => exact stop
  | cons x xs =>
    rw [List.flatMap_cons, List.append_assoc]
    exact opens x List.mem_cons_self _

/-- **A row of chunks is told by its text** if each chunk is told where the text goes on with another one
or stops, and what follows the row does not go on with it. -/
theorem flatMap_inj {α : Type} {chunk : α → List Char} {xs ys : List α} {r s : List Char}
    (opens : ∀ x ∈ xs, ∀ t, Stops p (chunk x ++ t)) (opens' : ∀ y ∈ ys, ∀ t, Stops p (chunk y ++ t))
    (told : ∀ x ∈ xs, ∀ y ∈ ys, ∀ t u, Stops p t → Stops p u → chunk x ++ t = chunk y ++ u →
      x = y ∧ t = u)
    (stop : Stops p r) (stop' : Stops p s) (ends : ∀ y ∈ ys, ∀ t, r ≠ chunk y ++ t)
    (ends' : ∀ x ∈ xs, ∀ t, s ≠ chunk x ++ t) (same : xs.flatMap chunk ++ r = ys.flatMap chunk ++ s) :
    xs = ys ∧ r = s := by
  induction xs generalizing ys with
  | nil =>
    cases ys with
    | nil => exact ⟨rfl, same⟩
    | cons y ys =>
      rw [List.flatMap_cons, List.append_assoc] at same
      exact absurd same (ends y List.mem_cons_self _)
  | cons x xs ih =>
    cases ys with
    | nil =>
      rw [List.flatMap_cons, List.append_assoc] at same
      exact absurd same.symm (ends' x List.mem_cons_self _)
    | cons y ys =>
      have opens_xs := fun x hx => opens x (List.mem_cons_of_mem _ hx)
      have opens_ys := fun y hy => opens' y (List.mem_cons_of_mem _ hy)
      rw [List.flatMap_cons, List.flatMap_cons, List.append_assoc, List.append_assoc] at same
      obtain ⟨rfl, rest⟩ := told x List.mem_cons_self y List.mem_cons_self _ _
        (stops_flatMap opens_xs stop) (stops_flatMap opens_ys stop') same
      obtain ⟨rfl, after⟩ := ih opens_xs opens_ys
        (fun x hx y hy => told x (List.mem_cons_of_mem _ hx) y (List.mem_cons_of_mem _ hy))
        (fun y hy => ends y (List.mem_cons_of_mem _ hy))
        (fun x hx => ends' x (List.mem_cons_of_mem _ hx)) rest
      exact ⟨rfl, after⟩

/-- The text of an operator and what follows stops what stands before. -/
theorem stops_operator {later : List (Plain × Node)} (operators : ∀ o ∈ later, ∃ c, Operator o.1 c p) :
    ∀ o ∈ later, ∀ t, Stops (p + 1) (((separator o.1).toList ++ textAt (p + 1) o.2) ++ t) := by
  intro o ho t
  obtain ⟨c, operator⟩ := operators o ho
  rw [List.append_assoc]
  exact .operator operator (Nat.lt_succ_self p) _

/-- The operators and operands after a first one are told by their text. -/
theorem laterText_inj {xs ys : List (Plain × Node)} (operators : ∀ o ∈ xs, ∃ c, Operator o.1 c p)
    (operators' : ∀ o ∈ ys, ∃ c, Operator o.1 c p) (told : ∀ o ∈ xs, Told (p + 1) o.2)
    (legible : ∀ o ∈ ys, o.2.isLegible = true) {r s : List Char} (stop : Stops p r)
    (stop' : Stops p s) (same : laterText p xs ++ r = laterText p ys ++ s) : xs = ys ∧ r = s := by
  have ends : ∀ {later : List (Plain × Node)} {r : List Char}, Stops p r →
      (∀ o ∈ later, ∃ c, Operator o.1 c p) →
      ∀ o ∈ later, ∀ t, r ≠ ((separator o.1).toList ++ textAt (p + 1) o.2) ++ t := by
    intro later r stop operators o ho t
    obtain ⟨c, operator⟩ := operators o ho
    rw [List.append_assoc]
    exact stop.not_operator operator (Nat.le_refl p) _
  refine flatMap_inj (stops_operator operators) (stops_operator operators') ?_
    (stop.mono (Nat.le_succ p)) (stop'.mono (Nat.le_succ p)) (ends stop operators')
    (ends stop' operators) same
  intro x hx y hy t u ht hu same
  obtain ⟨c, operator⟩ := operators x hx
  obtain ⟨c', operator'⟩ := operators' y hy
  rw [List.append_assoc, List.append_assoc] at same
  obtain ⟨op_eq, same⟩ := separator_append_inj operator operator' same
  obtain ⟨arg_eq, same⟩ := told x hx y.2 (legible y hy) t u ht hu same
  exact ⟨Prod.ext op_eq arg_eq, same⟩

/-- **A row is told by its text if its operands are.** -/
theorem told_of_joinedAt {node first : Node} {later : List (Plain × Node)}
    (row : JoinedAt p node first later) (legible : node.isLegible = true)
    (told_first : Told (p + 1) first) (told_later : ∀ o ∈ later, Told (p + 1) o.2) : Told p node := by
  intro other legible' r s stop stop' same
  obtain ⟨first', later', row'⟩ := exists_joinedAt p other
  rw [row.textAt_eq legible, row'.textAt_eq legible', List.append_assoc, List.append_assoc] at same
  obtain ⟨rfl, rest⟩ := told_first first' (row'.legible legible').1 _ _
    (stops_flatMap (stops_operator row.operator) (stop.mono (Nat.le_succ p)))
    (stops_flatMap (stops_operator row'.operator) (stop'.mono (Nat.le_succ p))) same
  obtain ⟨rfl, ends⟩ := laterText_inj row.operator row'.operator told_later
    (row'.legible legible').2 stop stop' rest
  exact ⟨row.unique row' legible legible', ends⟩

/-- An expression among operators of any precedence is told by its text, if this holds of all smaller
ones in brackets, and of itself where it stands in brackets.  The induction goes down from the operators
that bind most strongly. -/
theorem told_of_smaller (k : Nat) : ∀ (p : Nat) (node : Node), p + k = 6 → node.isLegible = true →
    (∀ x : Node, sizeOf x < sizeOf node → x.isLegible = true → Told 6 x) →
    ((∀ q, node.infix? = some q → q < p) → Told 6 node) → Told p node := by
  induction k with
  | zero =>
    intro p node level legible smaller closed
    obtain rfl : p = 6 := level
    exact closed fun q bound => Nat.lt_succ_of_le (infix?_bounds bound).2
  | succ k ih =>
    intro p node level legible smaller closed
    obtain ⟨first, later, row⟩ := exists_joinedAt p node
    by_cases bound : node.infix? = some p
    · obtain ⟨smaller_first, smaller_later⟩ := row.smaller bound
      obtain ⟨legible_first, legible_later⟩ := row.legible legible
      have told : ∀ x : Node, sizeOf x < sizeOf node → x.isLegible = true → Told (p + 1) x :=
        fun x hx legible_x => ih (p + 1) x (by omega) legible_x
          (fun y hy => smaller y (Nat.lt_trans hy hx)) fun _ => smaller x hx legible_x
      exact told_of_joinedAt row legible (told first smaller_first legible_first)
        fun o ho => told o.2 (smaller_later o ho) (legible_later o ho)
    · -- The expression is no row of this level, so it stands alone and may be closed further up.
      have alone : JoinedAt p node node [] := .alone bound
      refine told_of_joinedAt alone legible (ih (p + 1) node (by omega) legible smaller ?_)
        fun o ho => by cases ho
      refine fun weaker => closed fun q found => ?_
      have apart : q ≠ p := fun same => bound (same ▸ found)
      have := weaker q found
      omega

/-! ## Arguments are told by their text -/

theorem stops_laterArg (args : List Node) : ∀ arg ∈ args, ∀ t, Stops 1 (laterArg arg ++ t) :=
  fun _ _ _ => .comma _

theorem laterArgs_inj {xs ys : List Node} (told : ∀ x ∈ xs, Told 1 x)
    (legible : ∀ y ∈ ys, y.isLegible = true) {r s : List Char}
    (same : xs.flatMap laterArg ++ ')' :: r = ys.flatMap laterArg ++ ')' :: s) :
    xs = ys ∧ r = s := by
  have ends : ∀ (args : List Node) (r : List Char), ∀ arg ∈ args, ∀ t,
      ')' :: r ≠ laterArg arg ++ t := by
    intro args r arg _ t same
    cases (List.cons.inj same).1
  obtain ⟨rfl, after⟩ := flatMap_inj (stops_laterArg xs) (stops_laterArg ys)
    (fun x hx y hy t u ht hu same => told x hx y (legible y hy) t u ht hu
      (List.cons.inj (List.cons.inj same).2).2)
    (.close r) (.close s) (ends ys r) (ends xs s) same
  exact ⟨rfl, (List.cons.inj after).2⟩

/-- **Arguments are told by their text, and so is where their brackets end.** -/
theorem argsText_inj {xs ys : List Node} (told : ∀ x ∈ xs, Told 1 x)
    (legible : ∀ x ∈ xs, x.isLegible = true) (legible' : ∀ y ∈ ys, y.isLegible = true)
    {r s : List Char} (same : argsText xs ++ ')' :: r = argsText ys ++ ')' :: s) :
    xs = ys ∧ r = s := by
  cases xs with
  | nil =>
    cases ys with
    | nil => exact ⟨rfl, (List.cons.inj same).2⟩
    | cons y ys =>
      rw [argsText, argsText, List.append_assoc] at same
      exact absurd same.symm (textAt_one_ne_close (legible' y List.mem_cons_self) _ _)
  | cons x xs =>
    cases ys with
    | nil =>
      rw [argsText, argsText, List.append_assoc] at same
      exact absurd same (textAt_one_ne_close (legible x List.mem_cons_self) _ _)
    | cons y ys =>
      rw [argsText, argsText, List.append_assoc, List.append_assoc] at same
      obtain ⟨rfl, rest⟩ := told x List.mem_cons_self y (legible' y List.mem_cons_self) _ _
        (stops_flatMap (stops_laterArg xs) (.close r)) (stops_flatMap (stops_laterArg ys) (.close s))
        same
      obtain ⟨rfl, ends⟩ := laterArgs_inj (fun x hx => told x (List.mem_cons_of_mem _ hx))
        (fun y hy => legible' y (List.mem_cons_of_mem _ hy)) rest
      exact ⟨rfl, ends⟩

/-! ## Closed expressions are told by their text -/

theorem word_inj {v w : String} (hv : Text.isWord v = true) (hw : Text.isWord w = true)
    {r s : List Char} (hr : Text.AtMark r) (hs : Text.AtMark s)
    (same : v.toList ++ r = w.toList ++ s) : v = w ∧ r = s := by
  obtain ⟨names, rest⟩ := Text.append_inj_of_atMark (Text.isMark_of_isWord hv)
    (Text.isMark_of_isWord hw) hr hs same
  exact ⟨String.toList_inj.1 names, rest⟩

theorem number_inj {m n : Nat} {r s : List Char} (hr : Text.AtMark r) (hs : Text.AtMark s)
    (same : Nat.toDigits 10 m ++ r = Nat.toDigits 10 n ++ s) : m = n ∧ r = s := by
  have no_mark : ∀ k : Nat, ∀ c ∈ Nat.toDigits 10 k, Text.isMark c = false := fun k c hc =>
    Text.isMark_of_isDigit (Nat.isDigit_of_mem_toDigits (by decide) (by decide) hc)
  obtain ⟨digits, rest⟩ := Text.append_inj_of_atMark (no_mark m) (no_mark n) hr hs same
  rw [← Nat.toList_repr, ← Nat.toList_repr] at digits
  exact ⟨Nat.repr_injective (String.toList_inj.1 digits), rest⟩

/-- Arguments in brackets are told by their text. -/
theorem brackets_inj {xs ys : List Node} (told : ∀ x ∈ xs, Told 1 x)
    (legible : ∀ x ∈ xs, x.isLegible = true) (legible' : ∀ y ∈ ys, y.isLegible = true)
    {r s : List Char} (same : '(' :: (argsText xs ++ [')']) ++ r = '(' :: (argsText ys ++ [')']) ++ s) :
    xs = ys ∧ r = s := by
  rw [List.cons_append, List.cons_append, List.append_assoc, List.append_assoc] at same
  exact argsText_inj told legible legible' (List.cons.inj same).2

/-- A word on its own is not the name of a function. -/
theorem word_ne_named {v w : String} (hv : Text.isWord v = true) (hw : Text.isWord w = true)
    {r t s : List Char} (stop : Stops p r) : v.toList ++ r ≠ w.toList ++ '(' :: t ++ s := by
  intro same
  rw [List.append_assoc] at same
  obtain ⟨-, rest⟩ := word_inj hv hw stop.atMark (Text.atMark_open _) same
  exact stop.ne_open _ rest

/-- A sign before an operand is not the name of a function. -/
theorem sign_ne_function {op op' : Plain} {c c' : Char} {q q' : Nat} {arg : Node} {args : List Node}
    (operator : Operator op c q) (operator' : Operator op' c' q')
    (signed : op = .text "-" ∨ op = .text "+") (few : args.length < 2)
    (no_sign : isSign op' args = false) (legible : arg.isLegible = true) (r s : List Char) :
    c :: textAt 6 arg ++ r ≠ c' :: '(' :: (argsText args ++ [')']) ++ s := by
  intro same
  obtain ⟨rfl, rest⟩ := List.cons.inj same
  obtain ⟨rfl, -⟩ := operator.ext_char operator'
  obtain rfl := eq_nil_of_no_sign signed few no_sign
  exact textAt_six_ne_brackets legible r s rest

theorem operands_legible {op : Plain} {args : List Node} (h : (Node.call op args).isLegible = true) :
    ∀ arg ∈ args, arg.isLegible = true := (legibleCall_of_isLegible h).operands

theorem told_args {op : Plain} {args : List Node} (h : (Node.call op args).isLegible = true)
    (told : ∀ x : Node, sizeOf x < sizeOf (Node.call op args) → x.isLegible = true → Told p x) :
    ∀ arg ∈ args, Told p arg :=
  fun arg ha => told arg (sizeOf_lt_of_mem ha) (operands_legible h arg ha)

/-- Symbols and functions with names are told by their text. -/
theorem letters_inj {e f : Node} {t u r s : List Char} (he : Closed .letter e t)
    (hf : Closed .letter f u) (legible : e.isLegible = true) (legible' : f.isLegible = true)
    (told_one : ∀ x : Node, sizeOf x < sizeOf e → x.isLegible = true → Told 1 x) (stop : Stops p r)
    (stop' : Stops p s) (same : t ++ r = u ++ s) : e = f ∧ r = s := by
  cases he with
  | symbol word =>
    cases hf with
    | symbol word' =>
      obtain ⟨rfl, rest⟩ := word_inj word word' stop.atMark stop'.atMark same
      exact ⟨rfl, rest⟩
    | named word' => exact absurd same (word_ne_named word word' stop)
  | named word =>
    cases hf with
    | symbol word' => exact absurd same.symm (word_ne_named word' word stop')
    | named word' =>
      rw [List.append_assoc, List.append_assoc] at same
      obtain ⟨rfl, rest⟩ := word_inj word word' (Text.atMark_open _) (Text.atMark_open _) same
      obtain ⟨rfl, ends⟩ := brackets_inj (told_args legible told_one) (operands_legible legible)
        (operands_legible legible') rest
      exact ⟨rfl, ends⟩

/-- Signs, and operators with too few operands for a row, are told by their text. -/
theorem signs_inj {e f : Node} {t u r s : List Char} (he : Closed .sign e t) (hf : Closed .sign f u)
    (legible : e.isLegible = true) (legible' : f.isLegible = true)
    (smaller : ∀ x : Node, sizeOf x < sizeOf e → x.isLegible = true → Told 6 x)
    (told_one : ∀ x : Node, sizeOf x < sizeOf e → x.isLegible = true → Told 1 x) (stop : Stops 6 r)
    (stop' : Stops 6 s) (same : t ++ r = u ++ s) : e = f ∧ r = s := by
  cases he with
  | sign operator signed =>
    have arg_legible := operands_legible legible _ List.mem_cons_self
    cases hf with
    | sign operator' signed' =>
      obtain ⟨rfl, rest⟩ := List.cons.inj same
      obtain ⟨rfl, -⟩ := operator.ext_char operator'
      obtain ⟨rfl, ends⟩ := smaller _ (sizeOf_lt_of_mem List.mem_cons_self) arg_legible _
        (operands_legible legible' _ List.mem_cons_self) r s stop stop' rest
      exact ⟨rfl, ends⟩
    | function operator' few no_sign =>
      exact absurd same (sign_ne_function operator operator' signed few no_sign arg_legible r s)
  | function operator few no_sign =>
    cases hf with
    | sign operator' signed' =>
      exact absurd same.symm (sign_ne_function operator' operator signed' few no_sign
        (operands_legible legible' _ List.mem_cons_self) s r)
    | function operator' few' no_sign' =>
      obtain ⟨rfl, rest⟩ := List.cons.inj same
      obtain ⟨rfl, -⟩ := operator.ext_char operator'
      obtain ⟨rfl, ends⟩ := brackets_inj (told_args legible told_one) (operands_legible legible)
        (operands_legible legible') rest
      exact ⟨rfl, ends⟩

/-- **A closed expression is told by its text** if all smaller ones are. -/
theorem told_six {node : Node} (legible : node.isLegible = true)
    (smaller : ∀ x : Node, sizeOf x < sizeOf node → x.isLegible = true → Told 6 x) : Told 6 node := by
  intro other legible' r s stop stop' same
  obtain ⟨lead, closed⟩ := exists_closed legible
  obtain ⟨lead', closed'⟩ := exists_closed legible'
  obtain rfl := closed.lead_eq closed' same
  have told_one : ∀ x : Node, sizeOf x < sizeOf node → x.isLegible = true → Told 1 x :=
    fun x hx legible_x => told_of_smaller 5 1 x rfl legible_x
      (fun y hy => smaller y (Nat.lt_trans hy hx)) fun _ => smaller x hx legible_x
  generalize textAt 6 node = t at closed same
  generalize textAt 6 other = u at closed' same
  cases lead with
  | letter => exact letters_inj closed closed' legible legible' told_one stop stop' same
  | sign => exact signs_inj closed closed' legible legible' smaller told_one stop stop' same
  | close => exact absurd rfl closed.lead_ne_close
  | digit =>
    cases closed with
    | number m =>
      cases closed' with
      | number n =>
        obtain ⟨rfl, rest⟩ := number_inj stop.atMark stop'.atMark same
        exact ⟨rfl, rest⟩
  | bracket =>
    cases closed with
    | row bound =>
      cases closed' with
      | row bound' =>
        have told : Told 1 node := told_of_smaller 5 1 node rfl legible smaller fun weaker => by
          obtain ⟨q, found⟩ := Option.isSome_iff_exists.1 bound
          exact absurd (weaker q found) (Nat.not_lt.2 (infix?_bounds found).1)
        rw [List.cons_append, List.cons_append, List.append_assoc, List.append_assoc] at same
        obtain ⟨rfl, rest⟩ := told other legible' _ _ (.close r) (.close s) (List.cons.inj same).2
        exact ⟨rfl, (List.cons.inj rest).2⟩

/-! ## Rendering is one-to-one -/

/-- Every legible expression is told by its text, and so is where it ends. -/
theorem told_of_isLegible (node : Node) (legible : node.isLegible = true) : Told 6 node :=
  told_six legible fun x _ legible_x => told_of_isLegible x legible_x
termination_by sizeOf node

theorem eq_of_text_eq {e f : Node} (legible : e.isLegible = true) (legible' : f.isLegible = true)
    (same : e.text = f.text) : e = f := by
  have told : Told 1 e := told_of_smaller 5 1 e rfl legible
    (fun x _ legible_x => told_of_isLegible x legible_x) fun _ => told_of_isLegible e legible
  refine (told f legible' [] [] .nil .nil ?_).1
  rw [textAt_one, textAt_one, same]

mutual
theorem isRenderable_of_isLegible :
    ∀ node : Node, node.isLegible = true → node.isRenderable = true
  | .symbol (.text _), _ => rfl
  | .literal _, _ => rfl
  | .call (.text op) args, h => by
    simp only [isLegible, Bool.and_eq_true] at h
    simp [isRenderable, Plain.hashable, areRenderable_of_areLegible args h.2]
theorem areRenderable_of_areLegible :
    ∀ nodes : List Node, areLegible nodes = true → areRenderable nodes = true
  | [], _ => rfl
  | node :: nodes, h => by
    simp only [areLegible, Bool.and_eq_true] at h
    simp [areRenderable, isRenderable_of_isLegible node h.1, areRenderable_of_areLegible nodes h.2]
end

theorem render_of_isLegible {node : Node} (h : node.isLegible = true) :
    node.render = .ok node.text := by
  unfold render
  rw [if_pos (isRenderable_of_isLegible node h)]

/-- **Rendering is one-to-one on legible expressions.**  Names may be any words, identifiers among them
(`Text.isWord_of_identifier`). -/
theorem eq_of_render_eq {e f : Node} (legible : e.isLegible = true) (legible' : f.isLegible = true)
    (same : e.render = f.render) : e = f := by
  rw [render_of_isLegible legible, render_of_isLegible legible'] at same
  exact eq_of_text_eq legible legible' (Except.ok.inj same)

/-- A sum that is written in groups. -/
def groupedSum : Node :=
  .app "+" [.app "+" [.app "-" [.app "-" [.var "x"], .app "-" [.var "y", .literal (.int 1)]],
      .app "*" [.app "^" [.var "x", .literal (.int 2)], .app "/" [.var "y", .app "+" [.var "z"]]]],
    .app "&" [.app "poly" [.var "x", .literal (.int 2)], .app "|" [.var "y", .app "-" []]]]

/-- The same sum in one row. -/
def sumInARow : Node :=
  .app "+" [.app "-" [.app "-" [.var "x"], .app "-" [.var "y", .literal (.int 1)]],
    .app "*" [.app "^" [.var "x", .literal (.int 2)], .app "/" [.var "y", .app "+" [.var "z"]]],
    .app "&" [.app "poly" [.var "x", .literal (.int 2)], .app "|" [.var "y", .app "-" []]]]

theorem eq_of_render_eq_groupedSum :
    sumInARow.render = .ok "-x - (y - 1) + x^2 * (y / +z) + poly(x, 2)&(y | -())" ∧
      groupedSum.flatten.isLegible = true ∧ sumInARow.isLegible = true ∧
      groupedSum.flatten.render = sumInARow.render ∧ groupedSum.flatten = sumInARow :=
  ⟨by decide, by decide, by decide, by decide, eq_of_render_eq (by decide) (by decide) (by decide)⟩

end Node

end ModelFormula
