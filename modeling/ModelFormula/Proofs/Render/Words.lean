import Mathlib
import ModelFormula.Node.Render

/-!
# Words and operators in formula text

Formula text consists of words, of operators and of the marks that set them apart.

* `Text.isMark`, `Text.isWord` — characters that formula text gives a meaning of its own, and names
  that stand for themselves in it; `Text.isWord_of_identifier`.
* `Text.append_inj_of_atMark` — a run of other characters ends where a mark stands.
* `Operator` — the operators that are written between their operands, each with its character and its
  precedence; `operator_of_precedence?`, `Operator.ext_char`.
* `separator_append_inj` — what stands between two operands tells the operator.
* `Stops` — what may follow an expression without going on with it.
-/

set_option autoImplicit false

namespace ModelFormula

namespace Text

/-- The characters that formula text gives a meaning of its own. -/
def isMark (c : Char) : Bool :=
  [' ', '(', ')', ',', '+', '-', '*', '/', '&', '|', '^'].contains c

/-- Whether a name stands for itself in formula text: it has characters, none of them is a mark, and the
first one is no decimal digit. -/
def isWord (s : String) : Bool :=
  match s.toList with
  | [] => false
  | c :: cs => !c.isDigit && (c :: cs).all fun c => !isMark c

theorem isDigit_of_isAlpha {c : Char} (letter : c.isAlpha = true) : c.isDigit = false := by
  simp only [Char.isAlpha, Char.isUpper, Char.isLower, Char.isDigit, Bool.or_eq_true,
    Bool.and_eq_true, decide_eq_true_eq, Bool.and_eq_false_iff, decide_eq_false_iff_not,
    UInt32.le_iff_toNat_le, ge_iff_le] at letter ⊢
  have upper : 'A'.val.toNat = 65 := rfl
  have lower : 'a'.val.toNat = 97 := rfl
  have last : '9'.val.toNat = 57 := rfl
  omega

/-- Letters and digits have no meaning of their own. -/
theorem isMark_of_isAlphanum {c : Char} (h : c.isAlphanum = true) : isMark c = false := by
  refine Bool.eq_false_iff.2 fun mark => ?_
  simp only [isMark, List.contains_eq_mem, List.mem_cons, List.not_mem_nil, or_false,
    decide_eq_true_eq] at mark
  rcases mark with rfl | rfl | rfl | rfl | rfl | rfl | rfl | rfl | rfl | rfl | rfl <;> cases h

theorem isMark_of_isDigit {c : Char} (h : c.isDigit = true) : isMark c = false :=
  isMark_of_isAlphanum (by simp [Char.isAlphanum, h])

theorem isMark_of_isWord {s : String} (word : isWord s = true) : ∀ c ∈ s.toList, isMark c = false := by
  unfold isWord at word
  split at word
  · cases word
  · rename_i c cs chars
    rw [chars]
    simpa using (Bool.and_eq_true_iff.1 word).2

/-- A letter followed by letters, digits, underscores and points is a word. -/
theorem isWord_of_identifier {c : Char} {cs : List Char} (letter : c.isAlpha = true)
    (others : ∀ d ∈ cs, d.isAlphanum = true ∨ d = '_' ∨ d = '.') :
    isWord (String.ofList (c :: cs)) = true := by
  have no_mark : ∀ d ∈ cs, isMark d = false := by
    intro d hd
    rcases others d hd with h | rfl | rfl
    · exact isMark_of_isAlphanum h
    · rfl
    · rfl
  have first : isMark c = false := isMark_of_isAlphanum (by simp [Char.isAlphanum, letter])
  simpa [isWord, isDigit_of_isAlpha letter, first] using no_mark

/-- A text that is over or goes on with a mark. -/
def AtMark (r : List Char) : Prop := ∀ c ∈ r.head?, isMark c = true

theorem atMark_open (r : List Char) : AtMark ('(' :: r) := by
  rintro c ⟨⟩
  rfl

/-- **A run of characters that are no marks ends where a mark stands.** -/
theorem append_inj_of_atMark {v w r s : List Char} (hv : ∀ c ∈ v, isMark c = false)
    (hw : ∀ c ∈ w, isMark c = false) (hr : AtMark r) (hs : AtMark s) (h : v ++ r = w ++ s) :
    v = w ∧ r = s := by
  induction v generalizing w with
  | nil =>
    cases w with
    | nil => exact ⟨rfl, h⟩
    | cons d w =>
      have mark := hr d (by rw [List.nil_append] at h; rw [h]; rfl)
      rw [hw d List.mem_cons_self] at mark
      cases mark
  | cons c v ih =>
    cases w with
    | nil =>
      have mark := hs c (by rw [List.nil_append] at h; rw [← h]; rfl)
      rw [hv c List.mem_cons_self] at mark
      cases mark
    | cons d w =>
      obtain ⟨rfl, tails⟩ := List.cons.inj h
      obtain ⟨rfl, rest⟩ := ih (fun c hc => hv c (List.mem_cons_of_mem _ hc))
        (fun c hc => hw c (List.mem_cons_of_mem _ hc)) tails
      exact ⟨rfl, rest⟩

end Text

/-! ## Operators -/

/-- The operators that are written between their operands, with character and precedence. -/
inductive Operator : Plain → Char → Nat → Prop where
  | bar : Operator (.text "|") '|' 1
  | plus : Operator (.text "+") '+' 2
  | minus : Operator (.text "-") '-' 2
  | times : Operator (.text "*") '*' 3
  | slash : Operator (.text "/") '/' 3
  | interaction : Operator (.text "&") '&' 4
  | power : Operator (.text "^") '^' 5

theorem operator_of_precedence? {op : Plain} {p : Nat} (h : precedence? op = some p) :
    ∃ c, Operator op c p := by
  unfold precedence? at h
  split at h
  · cases h; exact ⟨_, .bar⟩
  · cases h; exact ⟨_, .plus⟩
  · cases h; exact ⟨_, .minus⟩
  · cases h; exact ⟨_, .times⟩
  · cases h; exact ⟨_, .slash⟩
  · cases h; exact ⟨_, .interaction⟩
  · cases h; exact ⟨_, .power⟩
  · cases h

namespace Operator

variable {op op' : Plain} {c c' : Char} {p p' : Nat}

theorem precedence?_eq (h : Operator op c p) : precedence? op = some p := by
  cases h <;> rfl

/-- The character of an operator tells it. -/
theorem ext_char (h : Operator op c p) (h' : Operator op' c p') : op = op' ∧ p = p' := by
  cases h <;> cases h' <;> exact ⟨rfl, rfl⟩

theorem asText_eq (h : Operator op c p) : op.asText.toList = [c] := by
  cases h <;> rfl

theorem bounds (h : Operator op c p) : 1 ≤ p ∧ p ≤ 5 := by
  cases h <;> decide

/-- The two strongest operators are written without blanks. -/
theorem toList_separator (h : Operator op c p) :
    (separator op).toList = if 4 ≤ p then [c] else [' ', c, ' '] := by
  cases h <;> rfl

end Operator

/-- **What stands between two operands tells the operator.** -/
theorem separator_append_inj {op op' : Plain} {c c' : Char} {p p' : Nat} (h : Operator op c p)
    (h' : Operator op' c' p') {r s : List Char}
    (same : (separator op).toList ++ r = (separator op').toList ++ s) : op = op' ∧ r = s := by
  rw [h.toList_separator, h'.toList_separator] at same
  have no_blank : ∀ {op : Plain} {p : Nat}, ¬Operator op ' ' p := by
    rintro op p ⟨⟩
  split at same <;> split at same
  · obtain ⟨rfl, rest⟩ := List.cons.inj same
    exact ⟨(h.ext_char h').1, rest⟩
  · obtain ⟨rfl, -⟩ := List.cons.inj same
    exact absurd h no_blank
  · obtain ⟨rfl, -⟩ := List.cons.inj same
    exact absurd h' no_blank
  · obtain ⟨-, same⟩ := List.cons.inj same
    obtain ⟨rfl, same⟩ := List.cons.inj same
    exact ⟨(h.ext_char h').1, List.append_cancel_left same⟩

/-- What may follow an expression whose operators bind at least as strongly as `p` without going on
with it: nothing, the end of brackets or of an argument, or an operator that binds more weakly. -/
inductive Stops (p : Nat) : List Char → Prop where
  | nil : Stops p []
  | close (r : List Char) : Stops p (')' :: r)
  | comma (r : List Char) : Stops p (',' :: r)
  | operator {op : Plain} {c : Char} {q : Nat} (h : Operator op c q) (weaker : q < p)
      (r : List Char) : Stops p ((separator op).toList ++ r)

namespace Stops

variable {p q : Nat} {r : List Char}

theorem mono (h : Stops p r) (le : p ≤ q) : Stops q r := by
  cases h with
  | nil => exact .nil
  | close r => exact .close r
  | comma r => exact .comma r
  | operator h weaker r => exact .operator h (Nat.lt_of_lt_of_le weaker le) r

/-- It begins with a mark other than an opening bracket. -/
theorem head (h : Stops p r) : ∀ c ∈ r.head?, Text.isMark c = true ∧ c ≠ '(' := by
  cases h with
  | nil => simp
  | close r => simp [Text.isMark]
  | comma r => simp [Text.isMark]
  | operator h weaker r =>
    rw [h.toList_separator]
    split
    · cases h <;> simp [Text.isMark]
    · simp [Text.isMark]

theorem atMark (h : Stops p r) : Text.AtMark r := fun c hc => (h.head c hc).1

theorem ne_open (h : Stops p r) (s : List Char) : r ≠ '(' :: s := by
  rintro rfl
  exact (h.head '(' rfl).2 rfl

/-- It does not go on with an operator that binds at least as strongly. -/
theorem not_operator (h : Stops p r) {op : Plain} {c : Char} (other : Operator op c q) (le : p ≤ q)
    (s : List Char) : r ≠ (separator op).toList ++ s := by
  intro same
  cases h with
  | nil =>
    rw [other.toList_separator] at same
    split at same <;> cases same
  | close r =>
    rw [other.toList_separator] at same
    split at same
    · obtain ⟨rfl, -⟩ := List.cons.inj same
      cases other
    · cases same
  | comma r =>
    rw [other.toList_separator] at same
    split at same
    · obtain ⟨rfl, -⟩ := List.cons.inj same
      cases other
    · cases same
  | operator h weaker r =>
    obtain ⟨rfl, -⟩ := separator_append_inj h other same
    have := h.precedence?_eq.symm.trans other.precedence?_eq
    cases this
    omega

end Stops

end ModelFormula
