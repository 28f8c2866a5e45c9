import Mathlib.Tactic.ByContra
import ModelFormula.Document.Scalar

/-!
# Whole numbers as scalars

* `Scalar.inBase?_toDigits`, `Scalar.magnitude?_toDigits` — decimal digits read back.
* `Scalar.resolve_toString` — a whole number without quotes means itself.
-/

set_option autoImplicit false

namespace ModelFormula.Scalar

theorem isDigit_of_mem {n : Nat} {c : Char} (mem : c ∈ Nat.toDigits 10 n) : c.isDigit = true :=
  Nat.isDigit_of_mem_toDigits (by decide) (by decide) mem

theorem hexDigitValue?_digitChar :
    ∀ d < 10, Text.hexDigitValue? (Nat.digitChar d) = some d := by
  decide

theorem foldlM_toDigits (n : Nat) :
    (Nat.toDigits 10 n).foldlM (fun n c =>
      match Text.hexDigitValue? c with
      | some d => if d < 10 then some (10 * n + d) else none
      | none => none) 0 = some n := by
  induction n using Nat.strongRecOn with
  | _ n ih =>
    by_cases small : n < 10
    · rw [Nat.toDigits_of_lt_base small]
      simp [hexDigitValue?_digitChar n small, small]
    · have digit := hexDigitValue?_digitChar (n % 10) (by omega)
      have last : n % 10 < 10 := by omega
      rw [Nat.toDigits_of_base_le (by decide) (by omega), List.foldlM_append,
        ih (n / 10) (by omega)]
      simp only [Option.bind_eq_bind, Option.bind_some, List.foldlM_cons, List.foldlM_nil, digit,
        if_pos last, Option.pure_def, Option.some.injEq]
      omega

theorem inBase?_toDigits (n : Nat) : inBase? 10 (Nat.toDigits 10 n) = some n := by
  have no_underscore : dropUnderscores (Nat.toDigits 10 n) = Nat.toDigits 10 n := by
    refine List.filter_eq_self.2 fun c mem => ?_
    rw [bne_iff_ne]
    rintro rfl
    exact absurd (isDigit_of_mem mem) (by decide)
  have some_digit : (Nat.toDigits 10 n).isEmpty = false := by
    simp [List.isEmpty_eq_false_iff, Nat.toDigits_ne_nil]
  rw [inBase?, no_underscore, some_digit]
  exact foldlM_toDigits n

/-- Only zero starts with the digit zero. -/
theorem first_digit {n : Nat} (positive : 0 < n) :
    ∃ c cs, Nat.toDigits 10 n = c :: cs ∧ c ≠ '0' := by
  induction n using Nat.strongRecOn with
  | _ n ih =>
    by_cases small : n < 10
    · have no_zero : ∀ d < 10, 0 < d → Nat.digitChar d ≠ '0' := by decide
      exact ⟨_, [], Nat.toDigits_of_lt_base small, no_zero n small positive⟩
    · obtain ⟨c, cs, digits, not_zero⟩ := ih (n / 10) (by omega) (by omega)
      refine ⟨c, cs ++ [(n % 10).digitChar], ?_, not_zero⟩
      rw [Nat.toDigits_of_base_le (by decide) (by omega), digits]
      rfl

theorem magnitude?_toDigits (n : Nat) : magnitude? (Nat.toDigits 10 n) = some n := by
  rcases Nat.eq_zero_or_pos n with rfl | positive
  · decide
  · have read := inBase?_toDigits n
    have no_colon : (Nat.toDigits 10 n).contains ':' = false := by
      by_contra colon
      rw [Bool.not_eq_false, List.contains_iff_mem] at colon
      exact absurd (isDigit_of_mem colon) (by decide)
    obtain ⟨c, cs, digits, not_zero⟩ := first_digit positive
    have not_underscore : c ≠ '_' := by
      rintro rfl
      exact absurd (isDigit_of_mem (n := n) (digits ▸ List.mem_cons_self)) (by decide)
    rw [digits] at read no_colon ⊢
    rw [magnitude?, no_colon]
    · exact read
    all_goals simp [not_zero, not_underscore]

/-- No word for something else starts like a number. -/
theorem words_spec :
    ∀ w ∈ nullWords ++ trueWords ++ falseWords,
      w.toList.head?.any (fun c => c.isDigit || c = '-') = false := by
  decide

theorem resolve_of_integer? {s : String} {n : Int} (number : integer? s.toList = some n) {c : Char}
    (starts : s.toList.head? = some c) (first : c.isDigit = true ∨ c = '-') :
    resolve s = .int n := by
  have no_word : s ∉ nullWords ++ trueWords ++ falseWords := by
    intro mem
    have other := words_spec s mem
    rw [starts, Option.any_some, Bool.or_eq_false_iff, decide_eq_false_iff_not] at other
    rcases first with digit | sign
    · rw [other.1] at digit
      cases digit
    · exact other.2 sign
  simp only [List.mem_append, not_or] at no_word
  rw [resolve]
  simp [List.contains_eq_mem, no_word, number]

/-- The text of a whole number is its sign, if it is negative, and its digits. -/
theorem exists_digits (n : Int) : ∃ (negative : Bool) (m : Nat), n = Text.applySign negative m ∧
    (toString n).toList = (if negative then ['-'] else []) ++ Nat.toDigits 10 m := by
  cases n with
  | ofNat m => exact ⟨false, m, rfl, Nat.toList_repr⟩
  | negSucc m =>
    refine ⟨true, m + 1, rfl, ?_⟩
    have text : toString (Int.negSucc m) = "-" ++ Nat.repr (m + 1) := rfl
    rw [text, String.toList_append, Nat.toList_repr]
    rfl

/-- **A whole number without quotes means itself.** -/
theorem resolve_toString (n : Int) : resolve (toString n) = .int n := by
  obtain ⟨negative, m, rfl, text⟩ := exists_digits n
  obtain ⟨c, cs, digits⟩ := List.exists_cons_of_ne_nil (@Nat.toDigits_ne_nil m 10)
  have digit : c.isDigit = true := isDigit_of_mem (n := m) (digits ▸ List.mem_cons_self)
  have read := magnitude?_toDigits m
  rw [digits] at text read
  cases negative with
  | true =>
    refine resolve_of_integer? ?_ (c := '-') (by rw [text]; rfl) (.inr rfl)
    rw [text, integer?]
    exact congrArg (Option.map _) read
  | false =>
    refine resolve_of_integer? ?_ (c := c) (by rw [text]; rfl) (.inl digit)
    have no_sign : Text.takeSign (c :: cs) = (false, c :: cs) := by
      unfold Text.takeSign
      split
      · rename_i same
        cases same
        exact absurd digit (by decide)
      · rename_i same
        cases same
        exact absurd digit (by decide)
      · rfl
    rw [text, integer?]
    simp only [Bool.false_eq_true, if_false, List.nil_append, no_sign]
    exact congrArg (Option.map _) read

end ModelFormula.Scalar
