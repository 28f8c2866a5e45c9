import Mathlib.Tactic.ByContra
import ModelFormula.Proofs.Document.Escapes

/-!
# Folded texts

In single quotes and without quotes a text is written as it is, but for its line breaks and for
blanks at which a line is folded.

* `Ending` — what a text ends in; `Laid` — the ways to write a text after another.
* `singleQuoted?_laid`, `plainText_laid` — such a text reads back.
* `Spaced`, `spaced_runs` — runs of characters in which blanks and line breaks stand apart.
* `laid_writeRuns` — such runs are written in one of these ways.
-/

set_option autoImplicit false

namespace ModelFormula.Document

open Style (Line doubleQuotes runs writeRuns bestWidth)

/-! ## The ways to write a text -/

/-- What a text ends in, or what it reads as so far. -/
inductive Ending where
  | word
  | blanks
  | breaks

/-- A character of a word. -/
def IsLetter (c : Char) : Prop := c ≠ ' ' ∧ c ≠ '\t' ∧ c ≠ '\n'

instance (c : Char) : Decidable (IsLetter c) :=
  inferInstanceAs (Decidable (c ≠ ' ' ∧ c ≠ '\t' ∧ c ≠ '\n'))

-- Only the characters of the list are tried, not all that there are.
instance (cs : List Char) : Decidable (∀ c ∈ cs, IsLetter c) := List.decidableBAll _ cs

/-- A character as it is written. -/
def laidChar (quoted : Bool) (c : Char) : List Char := if quoted then doubleQuotes [c] else [c]

/-- What line breaks read as, when there are so many more than one. -/
def breakMeaning (empty : Nat) : List Char :=
  if empty = 0 then [' '] else List.replicate empty '\n'

/-- A text as it may be written after another one, with line breaks before so many blanks.  A line
break stands for a blank, unless more follow; neither stand next to blanks that count. -/
inductive Laid (quoted : Bool) (indent : Nat) : Ending → List Char → List Char → Prop
  | nil {e : Ending} : Laid quoted indent e [] []
  | letter {e : Ending} {c : Char} {cs out : List Char} (isLetter : IsLetter c)
      (later : Laid quoted indent .word cs out) :
      Laid quoted indent e (c :: cs) (laidChar quoted c ++ out)
  | blank {e : Ending} {cs out : List Char} (counts : e ≠ .breaks)
      (later : Laid quoted indent .blanks cs out) : Laid quoted indent e (' ' :: cs) (' ' :: out)
  | breaks {cs out : List Char} (empty : Nat) (later : Laid quoted indent .breaks cs out) :
      Laid quoted indent .word (breakMeaning empty ++ cs)
        (List.replicate (empty + 1) '\n' ++ (List.replicate indent ' ' ++ out))

variable {quoted : Bool} {indent : Nat} {e : Ending} {cs out : List Char}

theorem breakMeaning_ne_nil (empty : Nat) : breakMeaning empty ≠ [] := by
  unfold breakMeaning
  split <;> simp [*]

theorem reverse_breakMeaning (empty : Nat) : (breakMeaning empty).reverse = breakMeaning empty := by
  unfold breakMeaning
  split <;> simp

namespace Laid

theorem nil_iff (h : Laid quoted indent e cs out) : cs = [] → out = [] := by
  intro none
  cases h with
  | nil => rfl
  | letter isLetter later => cases none
  | blank counts later => cases none
  | breaks empty later => exact absurd (List.append_eq_nil_iff.1 none).1 (breakMeaning_ne_nil empty)

/-- Words are written after anything. -/
theorem word {run : List Char} (some_letter : run ≠ []) (letters : ∀ c ∈ run, IsLetter c)
    (later : Laid quoted indent .word cs out) :
    Laid quoted indent e (run ++ cs) (run.flatMap (laidChar quoted) ++ out) := by
  induction run generalizing e with
  | nil => exact absurd rfl some_letter
  | cons c run ih =>
    obtain ⟨isLetter, letters⟩ := List.forall_mem_cons.1 letters
    rw [List.flatMap_cons, List.cons_append, List.append_assoc]
    by_cases last : run = []
    · subst last
      exact .letter isLetter later
    · exact .letter isLetter (ih last letters)

/-- Blanks that count are written after words. -/
theorem spaces (n : Nat) (counts : e ≠ .breaks) (later : Laid quoted indent .blanks cs out) :
    Laid quoted indent e (List.replicate (n + 1) ' ' ++ cs)
      (List.replicate (n + 1) ' ' ++ out) := by
  induction n generalizing e with
  | zero => exact .blank counts later
  | succ n ih => exact .blank counts (ih (by simp))

/-- Nothing but visible characters, blanks and line breaks is written, if the text has no others. -/
theorem isTidy (h : Laid quoted indent e cs out) (tidy : IsTidy cs) : IsTidy out := by
  induction h with
  | nil => exact isTidy_nil
  | @letter e c cs out isLetter later ih =>
    obtain ⟨first, tidy⟩ := isTidy_cons.1 tidy
    have written : IsTidy (laidChar quoted c) := by
      unfold laidChar doubleQuotes
      split
      · rw [List.flatMap_singleton]
        split
        · decide
        · exact isTidy_cons.2 ⟨first, isTidy_nil⟩
      · exact isTidy_cons.2 ⟨first, isTidy_nil⟩
    exact isTidy_append.2 ⟨written, ih tidy⟩
  | blank counts later ih => exact isTidy_cons.2 ⟨by decide, ih (isTidy_cons.1 tidy).2⟩
  | breaks empty later ih =>
    exact isTidy_append.2 ⟨isTidy_replicate (by decide) _,
      isTidy_append.2 ⟨isTidy_replicate (by decide) _, ih (isTidy_append.1 tidy).2⟩⟩

end Laid

/-! ## Reading -/

namespace Folded

/-- What a text ends in while it is read. -/
def EndsIn (t : Folded) : Ending → Prop
  | .word => t.blanks = [] ∧ t.breaks = none
  | .blanks => t.breaks = none
  | .breaks => t.breaks.isSome = true

variable {t : Folded}

theorem EndsIn.flat (h : t.EndsIn e) (counts : e ≠ .breaks) : t.breaks = none := by
  cases e with
  | word => exact h.2
  | blanks => exact h
  | breaks => exact absurd rfl counts

theorem flushed_word (h : t.EndsIn .word) : t.flushed = t.reversed := by
  simp [flushed, h.1, h.2]

/-- A text after line breaks, the first one and so many more. -/
def broken (t : Folded) (empty : Nat) : Folded := { t with blanks := [], breaks := some empty }

theorem flushed_broken (h : t.EndsIn .word) (empty : Nat) :
    (t.broken empty).flushed = breakMeaning empty ++ t.flushed := by
  rw [flushed_word h]
  cases empty <;> rfl

end Folded

/-- No mark between documents starts with a blank or a line break. -/
theorem isMarker_of_head {c : Char} (no_dash : c ≠ '-') (no_point : c ≠ '.') (cs : List Char) :
    isMarker (c :: cs) = false := by
  have dash : ('-' == c) = false := beq_false_of_ne no_dash.symm
  have point : ('.' == c) = false := beq_false_of_ne no_point.symm
  simp [isMarker, List.isPrefixOf, dash, point]

/-- A reader that skips the blanks at the start of a line; it may keep count of the columns. -/
structure SkipsBlanks {β : Type} (read : Folded → Nat → List Char → β) : Prop where
  newline : ∀ t column c cs, c = ' ' ∨ c = '\n' →
    read t column ('\n' :: c :: cs) = read t.newline 0 (c :: cs)
  blank : ∀ t column cs, t.breaks.isSome = true →
    read t column (' ' :: cs) = read t (column + 1) cs

namespace SkipsBlanks

variable {β : Type} {read : Folded → Nat → List Char → β} (h : SkipsBlanks read)

include h

theorem blanks (t : Folded) (empty n column : Nat) (rest : List Char) :
    read (t.broken empty) column (List.replicate n ' ' ++ rest) =
      read (t.broken empty) (column + n) rest := by
  induction n generalizing column with
  | zero => rfl
  | succ n ih =>
    rw [List.replicate_succ, List.cons_append, h.blank _ _ _ rfl, ih, Nat.add_right_comm]
    rfl

/-- A break before so many others, or before a blank. -/
theorem break_before (t : Folded) (column k n : Nat) (rest : List Char) :
    read t column (List.replicate (k + 1) '\n' ++ (List.replicate (n + 1) ' ' ++ rest)) =
      read t.newline 0 (List.replicate k '\n' ++ (List.replicate (n + 1) ' ' ++ rest)) := by
  cases k with
  | zero => exact h.newline _ _ _ _ (.inl rfl)
  | succ k => exact h.newline _ _ _ _ (.inr rfl)

theorem further_breaks (t : Folded) (seen k n : Nat) (rest : List Char) :
    read (t.broken seen) 0 (List.replicate k '\n' ++ (List.replicate (n + 1) ' ' ++ rest)) =
      read (t.broken (seen + k)) 0 (List.replicate (n + 1) ' ' ++ rest) := by
  induction k generalizing seen with
  | zero => rfl
  | succ k ih =>
    have next := ih (seen + 1)
    rw [Nat.add_right_comm] at next
    rw [h.break_before, ← Nat.add_assoc, ← next]
    rfl

/-- **Line breaks are read up to the first other character of the line they lead to.** -/
theorem breaks (positive : 0 < indent) {t : Folded} (flat : t.breaks = none)
    (column empty : Nat) (rest : List Char) :
    read t column (List.replicate (empty + 1) '\n' ++ (List.replicate indent ' ' ++ rest)) =
      read (t.broken empty) indent rest := by
  obtain ⟨n, rfl⟩ : ∃ n, indent = n + 1 := ⟨indent - 1, by omega⟩
  have first : t.newline = t.broken 0 := by rw [Folded.newline, Folded.broken, flat]
  rw [h.break_before, first, h.further_breaks, Nat.zero_add, h.blanks, Nat.zero_add]

end SkipsBlanks

/-! ### Single quotes -/

theorem singleQuoted?_blank (t : Folded) (rest : List Char) :
    singleQuoted? t (' ' :: rest) = singleQuoted? (t.blank ' ') rest := by
  rw [singleQuoted?, if_pos (by decide)]
  · exact fun _ no_quote => absurd no_quote (by decide)
  · exact fun no_quote => absurd no_quote (by decide)
  · exact fun no_break => absurd no_break (by decide)

theorem singleQuoted?_breaks (positive : 0 < indent) {t : Folded} (flat : t.breaks = none)
    (empty : Nat) (rest : List Char) :
    singleQuoted? t (List.replicate (empty + 1) '\n' ++ (List.replicate indent ' ' ++ rest)) =
      singleQuoted? (t.broken empty) rest := by
  have skips : SkipsBlanks fun t _ cs => singleQuoted? t cs := by
    constructor
    · intro t column c cs next
      have no_marker : isMarker (c :: cs) = false := by
        rcases next with rfl | rfl <;> exact isMarker_of_head (by decide) (by decide) cs
      rw [singleQuoted?, no_marker, if_neg Bool.false_ne_true]
    · intro t column cs broken
      rw [singleQuoted?_blank, Folded.blank, if_pos broken]
  exact skips.breaks positive flat 0 empty rest

theorem singleQuoted?_letter {t : Folded} {c : Char} (isLetter : IsLetter c) (rest : List Char) :
    singleQuoted? t (laidChar true c ++ rest) = singleQuoted? (t.push c) rest := by
  obtain ⟨no_blank, no_tab, no_break⟩ := isLetter
  by_cases quote : c = '\''
  · subst quote
    exact singleQuoted?.eq_2 _ _
  · have written : laidChar true c = [c] := by simp [laidChar, doubleQuotes, quote]
    rw [written, List.singleton_append, singleQuoted?, if_neg (by simp [no_blank, no_tab])]
    all_goals simp [quote, no_break]

theorem singleQuoted?_close (t : Folded) {rest : List Char} (closed : rest.head? ≠ some '\'') :
    singleQuoted? t ('\'' :: rest) = some (t.text, rest) := by
  rw [singleQuoted?]
  rintro cs rfl
  exact closed rfl

/-- **A text in single quotes reads back**, however it is laid out. -/
theorem singleQuoted?_laid (h : Laid true indent e cs out) (positive : 0 < indent) {t : Folded}
    (ending : t.EndsIn e) {rest : List Char} (closed : rest.head? ≠ some '\'') :
    singleQuoted? t (out ++ '\'' :: rest) =
      some (String.ofList (t.flushed.reverse ++ cs), rest) := by
  induction h generalizing t with
  | nil =>
    rw [List.nil_append, singleQuoted?_close t closed, List.append_nil]
    rfl
  | @letter e c cs out isLetter later ih =>
    rw [List.append_assoc, singleQuoted?_letter isLetter, ih (t := t.push c) ⟨rfl, rfl⟩,
      Folded.flushed_push, List.reverse_cons, List.append_assoc]
    rfl
  | @blank e cs out counts later ih =>
    obtain ⟨flushed, still_flat⟩ := Folded.flushed_blank (ending.flat counts) ' '
    rw [List.cons_append, singleQuoted?_blank, ih (t := t.blank ' ') still_flat, flushed,
      List.reverse_cons, List.append_assoc]
    rfl
  | @breaks cs out empty later ih =>
    rw [List.append_assoc, List.append_assoc, singleQuoted?_breaks positive ending.2,
      ih (t := t.broken empty) rfl, Folded.flushed_broken ending, List.reverse_append,
      reverse_breakMeaning, List.append_assoc]

/-! ### No quotes -/

/-- Whether no mark follows a character that would not read as text outside of quotes. -/
def Unmarked (previous : Option Char) (cs : List Char) : Prop :=
  (Style.traitsFrom previous cs).marks = false

theorem unmarked_cons {previous : Option Char} {c : Char} {cs : List Char} :
    Unmarked previous (c :: cs) ↔
      Style.isMarkAt previous c cs = false ∧ Unmarked (some c) cs := by
  rw [Unmarked, Style.traitsFrom, Bool.or_eq_false_iff, and_comm]
  rfl

theorem plainText_breaks {rule : PlainRule} (lines : rule.lines = true) (positive : 0 < indent)
    {t : Folded} (flat : t.breaks = none) (column empty : Nat) (left rest : List Char) :
    plainText rule t column left
        (List.replicate (empty + 1) '\n' ++ (List.replicate indent ' ' ++ rest)) =
      plainText rule (t.broken empty) indent left rest := by
  have skips : SkipsBlanks fun t column cs => plainText rule t column left cs := by
    constructor
    · intro t column c cs next
      have no_marker : isMarker (c :: cs) = false := by
        rcases next with rfl | rfl <;> exact isMarker_of_head (by decide) (by decide) cs
      rw [plainText, if_neg (by decide), if_pos rfl, lines, no_marker]
      rfl
    · intro t column cs broken
      rw [plainText, if_pos rfl, Folded.blank, if_pos broken]
  exact skips.breaks positive flat column empty rest

theorem isSpace_of_mem_breakMeaning {empty : Nat} {c : Char} (mem : c ∈ breakMeaning empty) :
    Style.isSpace c = true ∧ ¬ IsLetter c := by
  have either : c = ' ' ∨ c = '\n' := by
    unfold breakMeaning at mem
    split at mem
    · exact .inl (List.mem_singleton.1 mem)
    · exact .inr (List.eq_of_mem_replicate mem)
  rcases either with rfl | rfl
  · exact ⟨by decide, fun isLetter => isLetter.1 rfl⟩
  · exact ⟨by decide, fun isLetter => isLetter.2.2 rfl⟩

/-- After spaces no mark follows if none follows before them. -/
theorem exists_unmarked_of_append {previous : Option Char} {xs cs : List Char}
    (some_space : xs ≠ []) (spaces : ∀ c ∈ xs, Style.isSpace c = true)
    (h : Unmarked previous (xs ++ cs)) :
    ∃ p, Style.isSpace p = true ∧ Unmarked (some p) cs := by
  induction xs generalizing previous with
  | nil => exact absurd rfl some_space
  | cons c xs ih =>
    obtain ⟨space, spaces⟩ := List.forall_mem_cons.1 spaces
    have later := (unmarked_cons.1 h).2
    by_cases last : xs = []
    · subst last
      exact ⟨c, space, later⟩
    · exact ih last spaces later

/-- A colon that is no mark is followed by a character that is no space. -/
theorem exists_of_colon {previous : Option Char} {cs : List Char}
    (h : Style.isMarkAt previous ':' cs = false) :
    ∃ c more, cs = c :: more ∧ Style.isSpace c = false := by
  cases cs with
  | nil => cases previous <;> simp [Style.isMarkAt] at h
  | cons c more =>
    refine ⟨c, more, rfl, ?_⟩
    cases previous <;> simp [Style.isMarkAt] at h
    · exact h.2
    · exact h

/-- A number sign that is no mark stands inside a word. -/
theorem exists_of_numberSign {previous : Option Char} {cs : List Char}
    (h : Style.isMarkAt previous '#' cs = false) :
    ∃ p, previous = some p ∧ Style.isSpace p = false := by
  cases previous with
  | none => simp [Style.isMarkAt, Style.firstMarks] at h
  | some p =>
    simp [Style.isMarkAt] at h
    exact ⟨p, rfl, h⟩

/-- A text that starts with a letter is written with that letter first. -/
theorem Laid.first_letter {c : Char} (h : Laid quoted indent e (c :: cs) out)
    (isLetter : IsLetter c) :
    ∃ later, out = laidChar quoted c ++ later ∧ Laid quoted indent .word cs later := by
  generalize whole : c :: cs = text at h
  cases h with
  | nil => cases whole
  | letter isLetter later =>
    cases whole
    exact ⟨_, rfl, later⟩
  | blank counts later =>
    cases whole
    exact absurd rfl isLetter.1
  | @breaks cs' out' empty later =>
    obtain ⟨d, more, meaning⟩ := List.exists_cons_of_ne_nil (breakMeaning_ne_nil empty)
    have first : c = d := by
      rw [meaning] at whole
      exact (List.cons.inj whole).1
    have mem : c ∈ breakMeaning empty := by
      rw [meaning, first]
      exact List.mem_cons_self
    exact absurd isLetter (isSpace_of_mem_breakMeaning mem).2

theorem isLetter_of_not_isSpace {c : Char} (no_space : Style.isSpace c = false) : IsLetter c := by
  simp only [Style.isSpace, Bool.or_eq_false_iff, decide_eq_false_iff_not] at no_space
  obtain ⟨⟨⟨⟨⟨⟨⟨-, no_blank⟩, no_tab⟩, -⟩, no_break⟩, -⟩, -⟩, -⟩ := no_space
  exact ⟨no_blank, no_tab, no_break⟩

/-- No word ends before a character that is no space. -/
theorem Laid.endsWord_eq_false {c : Char} (h : Laid false indent e (c :: cs) out)
    (no_space : Style.isSpace c = false) (rest : List Char) : endsWord (out ++ rest) = false := by
  obtain ⟨no_blank, no_tab, no_break⟩ := isLetter_of_not_isSpace no_space
  obtain ⟨later, rfl, -⟩ := h.first_letter ⟨no_blank, no_tab, no_break⟩
  simp [laidChar, endsWord, no_blank, no_tab, no_break]

/-- A text that does not end in a blank or a line break. -/
def ClosesInWord (cs : List Char) : Prop := ∀ c ∈ cs.getLast?, IsLetter c

theorem ClosesInWord.of_append (xs : List Char) (h : ClosesInWord (xs ++ cs)) :
    ClosesInWord cs := by
  intro c last
  refine h c ?_
  rw [List.getLast?_append, last]
  rfl

/-- A letter that is no mark goes on with the text. -/
theorem plainText_letter {rule : PlainRule} (outside : rule.flow = false) {t : Folded}
    (ending : t.EndsIn e) {column : Nat} (in_block : e = .breaks → rule.indent ≤ column)
    {previous : Option Char} (spaced : e ≠ .word → ∃ p, previous = some p ∧ Style.isSpace p = true)
    {c : Char} (isLetter : IsLetter c) (no_mark : Style.isMarkAt previous c cs = false)
    (later : Laid false indent .word cs out) (left tail : List Char) :
    plainText rule t column left (c :: (out ++ tail)) =
      plainText rule (t.push c) (column + 1) (out ++ tail) (out ++ tail) := by
  have no_end : endsPlain rule.flow c (out ++ tail) = false := by
    by_cases colon : c = ':'
    · subst colon
      obtain ⟨d, more, rfl, no_space⟩ := exists_of_colon no_mark
      simp [endsPlain, outside, later.endsWord_eq_false no_space]
    · simp [endsPlain, outside, colon]
  have no_comment : (decide (c = '#') && (!t.blanks.isEmpty || t.breaks.isSome)) = false := by
    by_cases sign : c = '#'
    · subst sign
      obtain ⟨p, before, no_space⟩ := exists_of_numberSign no_mark
      have in_word : e = .word := by
        by_contra other
        obtain ⟨q, same, space⟩ := spaced other
        rw [before] at same
        cases same
        rw [no_space] at space
        cases space
      subst in_word
      simp [ending.1, ending.2]
    · simp [sign]
  have same_block : (t.breaks.isSome && !rule.flow && decide (column < rule.indent)) = false := by
    cases e with
    | word => simp [ending.2]
    | blanks =>
      have flat : t.breaks = none := ending
      simp [flat]
    | breaks => simp [Nat.not_lt.2 (in_block rfl)]
  rw [plainText, if_neg isLetter.1, if_neg isLetter.2.2, no_end, no_comment, same_block,
    decide_eq_false isLetter.2.1]
  rfl

/-- **A text without quotes reads back**, however it is laid out, if it holds no marks and ends in a
word. -/
theorem plainText_laid (h : Laid false indent e cs out) {rule : PlainRule}
    (lines : rule.lines = true) (outside : rule.flow = false) (inside : rule.indent ≤ indent)
    (positive : 0 < indent) {t : Folded} (ending : t.EndsIn e) {column : Nat}
    (in_block : e = .breaks → rule.indent ≤ column) {previous : Option Char}
    (spaced : e ≠ .word → ∃ p, previous = some p ∧ Style.isSpace p = true)
    (unmarked : Unmarked previous cs) (closed : ClosesInWord cs)
    {left tail : List Char} (here : cs = [] → e = .word ∧ left = tail)
    (ends : ∀ t column left, plainText rule t column left tail = (plainText.wordsOf t, left)) :
    plainText rule t column left (out ++ tail) =
      (String.ofList (t.flushed.reverse ++ cs), tail) := by
  induction h generalizing t column previous left with
  | @nil e =>
    obtain ⟨rfl, rfl⟩ := here rfl
    rw [List.nil_append, ends, plainText.wordsOf, Folded.flushed_word ending, List.append_nil]
  | @letter e c cs out isLetter later ih =>
    obtain ⟨no_mark, unmarked⟩ := unmarked_cons.1 unmarked
    have read := plainText_letter outside ending in_block spaced isLetter no_mark later left tail
    rw [laidChar, if_neg Bool.false_ne_true, List.append_assoc, List.singleton_append, read,
      ih (t := t.push c) ⟨rfl, rfl⟩ (fun other => by cases other)
        (fun other => absurd rfl other) unmarked (closed.of_append [c])
        (fun none => ⟨rfl, by rw [later.nil_iff none]; rfl⟩),
      Folded.flushed_push, List.reverse_cons, List.append_assoc]
    rfl
  | @blank e cs out counts later ih =>
    obtain ⟨flushed, still_flat⟩ := Folded.flushed_blank (ending.flat counts) ' '
    have more : cs ≠ [] := by
      rintro rfl
      exact (closed ' ' rfl).1 rfl
    rw [List.cons_append, plainText, if_pos rfl,
      ih (t := t.blank ' ') still_flat (fun other => by cases other)
        (fun _ => ⟨' ', rfl, by decide⟩) (unmarked_cons.1 unmarked).2 (closed.of_append [' '])
        (fun none => absurd none more),
      flushed, List.reverse_cons, List.append_assoc]
    rfl
  | @breaks cs out empty later ih =>
    obtain ⟨p, space, unmarked⟩ := exists_unmarked_of_append (breakMeaning_ne_nil empty)
      (fun c mem => (isSpace_of_mem_breakMeaning mem).1) unmarked
    have more : cs ≠ [] := by
      rintro rfl
      obtain ⟨c, last⟩ := Option.isSome_iff_exists.1
        (List.getLast?_isSome.2 (breakMeaning_ne_nil empty))
      refine (isSpace_of_mem_breakMeaning (List.mem_of_getLast? last)).2 (closed c ?_)
      rw [List.append_nil]
      exact last
    rw [List.append_assoc, List.append_assoc, plainText_breaks lines positive ending.2,
      ih (t := t.broken empty) rfl (fun _ => inside) (fun _ => ⟨p, rfl, space⟩) unmarked
        (closed.of_append _) (fun none => absurd none more),
      Folded.flushed_broken ending, List.reverse_append, reverse_breakMeaning, List.append_assoc]

/-! ## Writing -/

/-- Runs of characters that can follow a text with such an end: blanks and line breaks stand between
words, or at the ends. -/
inductive Spaced : Ending → List (List Char) → Prop
  | nil {e : Ending} : Spaced e []
  | word {e : Ending} {run : List Char} {rest : List (List Char)} (some_letter : run ≠ [])
      (letters : ∀ c ∈ run, IsLetter c) (later : Spaced .word rest) : Spaced e (run :: rest)
  | blanks {rest : List (List Char)} (n : Nat) (later : Spaced .blanks rest) :
      Spaced .word (List.replicate (n + 1) ' ' :: rest)
  | breaks {rest : List (List Char)} (n : Nat) (later : Spaced .breaks rest) :
      Spaced .word (List.replicate (n + 1) '\n' :: rest)

/-- What can follow blanks or line breaks can follow anything. -/
theorem Spaced.anywhere {rs : List (List Char)} (h : Spaced e rs) (spaced : e ≠ .word)
    (e' : Ending) : Spaced e' rs := by
  cases h with
  | nil => exact .nil
  | word some_letter letters later => exact .word some_letter letters later
  | blanks n later => exact absurd rfl spaced
  | breaks n later => exact absurd rfl spaced

theorem laidRun_eq (quoted : Bool) (run : List Char) :
    (if quoted then doubleQuotes run else run) = run.flatMap (laidChar quoted) := by
  cases quoted with
  | true =>
    refine congrArg (List.flatMap · run) (funext fun c => ?_)
    simp [laidChar, doubleQuotes]
  | false => exact (List.flatMap_singleton' run).symm

theorem laidRun_blanks (quoted : Bool) (n : Nat) :
    (if quoted then doubleQuotes (List.replicate n ' ') else List.replicate n ' ') =
      List.replicate n ' ' := by
  rw [laidRun_eq]
  induction n with
  | zero => rfl
  | succ n ih => cases quoted <;> exact congrArg (' ' :: ·) ih

/-- **What is written of runs is a layout of their text.** -/
theorem laid_writeRuns (indent : Nat) (quoted : Bool) {rs : List (List Char)} (h : Spaced e rs)
    (l : Line) (first : Bool) :
    ∃ out, Laid quoted indent e rs.flatten out ∧
      (writeRuns indent quoted l first rs).reversed = out.reverse ++ l.reversed := by
  induction rs generalizing e l first with
  | nil => exact ⟨[], .nil, rfl⟩
  | cons run rest ih =>
    rw [writeRuns, List.flatten_cons]
    generalize (!quoted || !first && !rest.isEmpty) = inner
    cases h with
    | word some_letter letters later =>
      obtain ⟨c, run, rfl⟩ := List.exists_cons_of_ne_nil some_letter
      have isLetter := letters c List.mem_cons_self
      have no_blank : c :: run ≠ [' '] := fun same => isLetter.1 (List.cons.inj same).1
      have no_break : (c :: run).head? ≠ some '\n' := fun same =>
        isLetter.2.2 (Option.some.inj same)
      rw [if_neg no_blank, if_neg no_break, laidRun_eq]
      obtain ⟨out, laid, reversed⟩ :=
        ih later (l.add ((c :: run).flatMap (laidChar quoted))) false
      refine ⟨_, laid.word some_letter letters, ?_⟩
      rw [reversed, Line.add, List.reverse_append, List.append_assoc]
    | blanks n later =>
      have as_blanks : ∃ out,
          Laid quoted indent .word (List.replicate (n + 1) ' ' ++ rest.flatten) out ∧
            (writeRuns indent quoted (l.add (List.replicate (n + 1) ' ')) false rest).reversed =
              out.reverse ++ l.reversed := by
        obtain ⟨out, laid, reversed⟩ := ih later (l.add (List.replicate (n + 1) ' ')) false
        refine ⟨_, laid.spaces n (by simp), ?_⟩
        rw [reversed, Line.add, List.reverse_append, List.append_assoc]
      cases n with
      | zero =>
        have single : List.replicate (0 + 1) ' ' = [' '] := rfl
        rw [if_pos single]
        split
        · -- The blank becomes the end of a line.
          obtain ⟨out, laid, reversed⟩ :=
            ih (later.anywhere (by simp) .breaks) (l.fold indent 0) false
          refine ⟨_, .breaks 0 laid, ?_⟩
          rw [reversed, reversed_fold]
          simp
        · exact as_blanks
      | succ n =>
        have several : List.replicate (n + 1 + 1) ' ' ≠ [' '] := fun same => by cases same
        have no_break : (List.replicate (n + 1 + 1) ' ').head? ≠ some '\n' := fun same => by
          cases same
        rw [if_neg several, if_neg no_break, laidRun_blanks]
        exact as_blanks
    | breaks n later =>
      have no_blank : List.replicate (n + 1) '\n' ≠ [' '] := fun same =>
        absurd (List.cons.inj same).1 (by decide)
      have starts : (List.replicate (n + 1) '\n').head? = some '\n' := rfl
      obtain ⟨out, laid, reversed⟩ := ih later (l.fold indent (n + 1)) false
      refine ⟨_, .breaks (n + 1) laid, ?_⟩
      rw [if_neg no_blank, if_pos starts, List.length_replicate, reversed, reversed_fold]
      simp

/-! ## Runs -/

/-- Whether no blank stands next to a line break. -/
def Apart (previous : Option Char) (cs : List Char) : Prop :=
  (Style.traitsFrom previous cs).breakBlank = false ∧
    (Style.traitsFrom previous cs).blankBreak = false

/-- Runs start with the characters of the text. -/
theorem runs_cons (c : Char) (cs : List Char) :
    ∃ run rest, runs (c :: cs) = (c :: run) :: rest := by
  rw [runs]
  split
  · split
    · exact ⟨_, _, rfl⟩
    · exact ⟨_, _, rfl⟩
  · exact ⟨_, _, rfl⟩

theorem flatten_runs (cs : List Char) : (runs cs).flatten = cs := by
  induction cs with
  | nil => rfl
  | cons c cs ih =>
    rw [runs]
    split
    · rename_i d run rest found
      rw [found] at ih
      split <;> simp [← ih]
    · rw [List.flatten_cons, ih]
      rfl

theorem apart_cons {previous : Option Char} {c : Char} {cs : List Char}
    (h : Apart previous (c :: cs)) : Apart (some c) cs ∧
      (previous = some ' ' → c ≠ '\n') ∧ (previous = some '\n' → c ≠ ' ') := by
  obtain ⟨no_blank, no_break⟩ := h
  simp only [Style.traitsFrom, Bool.or_eq_false_iff] at no_blank no_break
  refine ⟨⟨no_blank.1, no_break.1⟩, ?_, ?_⟩
  · rintro rfl rfl
    exact absurd no_break.2 (by decide)
  · rintro rfl rfl
    exact absurd no_blank.2 (by decide)

/-- What a run that comes after a word starts with says what the run is. -/
theorem Spaced.first_run {d : Char} {run : List Char} {rest : List (List Char)}
    (h : Spaced .word ((d :: run) :: rest)) :
    ((∀ c ∈ d :: run, IsLetter c) ∧ Spaced .word rest) ∨
      (∃ n, d :: run = List.replicate (n + 1) ' ' ∧ Spaced .blanks rest) ∨
      ∃ n, d :: run = List.replicate (n + 1) '\n' ∧ Spaced .breaks rest := by
  generalize whole : (d :: run) :: rest = rs at h
  cases h with
  | nil => cases whole
  | word some_letter letters later =>
    cases whole
    exact .inl ⟨letters, later⟩
  | blanks n later =>
    obtain ⟨same, rfl⟩ := List.cons.inj whole
    exact .inr (.inl ⟨n, same, later⟩)
  | breaks n later =>
    obtain ⟨same, rfl⟩ := List.cons.inj whole
    exact .inr (.inr ⟨n, same, later⟩)

/-- A character of the same sort makes the first run longer. -/
theorem Spaced.longer {c d : Char} {run : List Char} {rest : List (List Char)}
    (h : Spaced .word ((d :: run) :: rest)) (no_tab : c ≠ '\t')
    (blank : c = ' ' ↔ d = ' ') (line_break : c = '\n' ↔ d = '\n')
    (fits : e ≠ .word → IsLetter c) : Spaced e ((c :: d :: run) :: rest) := by
  rcases h.first_run with ⟨letters, later⟩ | ⟨n, same, later⟩ | ⟨n, same, later⟩
  · have isLetter := letters d List.mem_cons_self
    refine .word (List.cons_ne_nil _ _) (List.forall_mem_cons.2 ⟨?_, letters⟩) later
    exact ⟨fun same => isLetter.1 (blank.1 same), no_tab,
      fun same => isLetter.2.2 (line_break.1 same)⟩
  · have no_letter : ¬ IsLetter c := fun isLetter =>
      isLetter.1 (blank.2 (List.cons.inj same).1)
    obtain rfl : e = .word := by
      by_contra other
      exact no_letter (fits other)
    rw [same, blank.2 (List.cons.inj same).1]
    exact .blanks (n + 1) later
  · have no_letter : ¬ IsLetter c := fun isLetter =>
      isLetter.2.2 (line_break.2 (List.cons.inj same).1)
    obtain rfl : e = .word := by
      by_contra other
      exact no_letter (fits other)
    rw [same, line_break.2 (List.cons.inj same).1]
    exact .breaks (n + 1) later

/-- A character makes a run of its own before runs of another sort. -/
theorem Spaced.alone {c : Char} {cs : List Char} (no_tab : '\t' ∉ c :: cs)
    (apart : Apart (some c) cs) (fits : e ≠ .word → IsLetter c)
    (other : ∀ d ∈ cs.head?, (c = ' ' → d ≠ ' ') ∧ (c = '\n' → d ≠ '\n'))
    (later : ∀ {e' : Ending}, (e' ≠ .word → ∀ d ∈ cs.head?, IsLetter d) → Spaced e' (runs cs)) :
    Spaced e ([c] :: runs cs) := by
  simp only [List.mem_cons, not_or] at no_tab
  have letter_next : c = ' ' ∨ c = '\n' → ∀ d ∈ cs.head?, IsLetter d := by
    intro space d head
    obtain ⟨more, rfl⟩ := List.head?_eq_some_iff.1 head
    obtain ⟨-, no_break, no_blank⟩ := apart_cons apart
    have no_tab_next : d ≠ '\t' := fun same => no_tab.2 (same ▸ List.mem_cons_self)
    rcases space with rfl | rfl
    · exact ⟨(other d head).1 rfl, no_tab_next, no_break rfl⟩
    · exact ⟨no_blank rfl, no_tab_next, (other d head).2 rfl⟩
  by_cases isLetter : IsLetter c
  · exact .word (List.cons_ne_nil _ _) (List.forall_mem_singleton.2 isLetter)
      (later fun spaced => absurd rfl spaced)
  · obtain rfl : e = .word := by
      by_contra spaced
      exact isLetter (fits spaced)
    by_cases blank : c = ' '
    · subst blank
      exact .blanks 0 (later fun _ => letter_next (.inl rfl))
    · by_cases line_break : c = '\n'
      · subst line_break
        exact .breaks 0 (later fun _ => letter_next (.inr rfl))
      · exact absurd ⟨blank, Ne.symm no_tab.1, line_break⟩ isLetter

/-- **The runs of a text stand apart** if its blanks and line breaks do. -/
theorem spaced_runs {previous : Option Char} {cs : List Char} (no_tab : '\t' ∉ cs)
    (apart : Apart previous cs) (fits : e ≠ .word → ∀ c ∈ cs.head?, IsLetter c) :
    Spaced e (runs cs) := by
  induction cs generalizing e previous with
  | nil => exact .nil
  | cons c cs ih =>
    have no_tab_later : '\t' ∉ cs := fun mem => no_tab (List.mem_cons_of_mem _ mem)
    obtain ⟨apart, -⟩ := apart_cons apart
    have alone : (∀ d ∈ cs.head?, (c = ' ' → d ≠ ' ') ∧ (c = '\n' → d ≠ '\n')) →
        Spaced e ([c] :: runs cs) := fun other =>
      .alone no_tab apart (fun spaced => fits spaced c rfl) other (ih no_tab_later apart)
    cases cs with
    | nil => exact alone fun d head => by cases head
    | cons d cs =>
      obtain ⟨run, rest, found⟩ := runs_cons d cs
      have whole : runs (c :: d :: cs) =
          if ((c == ' ') == (d == ' ') && (c == '\n') == (d == '\n')) = true then
            (c :: d :: run) :: rest
          else [c] :: (d :: run) :: rest := by rw [runs, found]
      rw [whole]
      split
      · rename_i same
        simp only [Bool.and_eq_true, beq_iff_eq] at same
        have later : Spaced .word ((d :: run) :: rest) :=
          found ▸ ih no_tab_later apart fun spaced => absurd rfl spaced
        have first_no_tab : c ≠ '\t' := fun same => no_tab (same ▸ List.mem_cons_self)
        refine later.longer first_no_tab ?_ ?_ fun spaced => fits spaced c rfl
        · rw [← beq_iff_eq, same.1, beq_iff_eq]
        · rw [← beq_iff_eq, same.2, beq_iff_eq]
      · rename_i differ
        rw [← found]
        refine alone fun e head => ?_
        cases head
        constructor
        · rintro rfl rfl
          exact differ rfl
        · rintro rfl rfl
          exact differ rfl

end ModelFormula.Document
