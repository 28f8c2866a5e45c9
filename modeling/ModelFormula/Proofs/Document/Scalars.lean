import ModelFormula.Document.Printer
import ModelFormula.Document.Reader
import ModelFormula.Proofs.Document.Folds
import ModelFormula.Proofs.Document.Numbers

/-!
# Values on a line

A single value is written after its key, and if it is a text, then it may run over several lines.

* `Cursor.moveTo_line`, `Cursor.skip_blanks`, `Cursor.skip_nextLine` — how a cursor moves.
* `IsInline` — what is read as a value, with what is left of the line.
* `isInline_text`, `isInline_word`, `isInline_int` — texts in their style, words, and numbers.
* `isInline_writeValue` — every single value is written so that it reads back.
-/

set_option autoImplicit false

namespace ModelFormula.Document

open Style (Line bestWidth)

/-! ## Cursors -/

/-- A text that no blanks, comments or line breaks are skipped from. -/
def Settled (cs : List Char) : Prop := ∀ c ∈ cs.head?, c ≠ ' ' ∧ c ≠ '\n' ∧ c ≠ '#'

/-- A line break, and a next line that starts in a column. -/
def nextLine (k : Nat) (cs : List Char) : List Char := '\n' :: (List.replicate k ' ' ++ cs)

namespace Cursor

theorem take_passed (pre rest : List Char) :
    (pre ++ rest).take ((pre ++ rest).length - rest.length) = pre := by simp

/-- Where the last line of a text starts. -/
theorem takeWhile_flat {last : List Char} (flat : '\n' ∉ last) (before : List Char) :
    (last.reverse ++ before).takeWhile (· != '\n') =
      last.reverse ++ before.takeWhile (· != '\n') := by
  refine List.takeWhile_append_of_pos fun c mem => ?_
  rw [bne_iff_ne]
  rintro rfl
  exact flat (List.mem_reverse.1 mem)

theorem moveTo_line {pre : List Char} (flat : '\n' ∉ pre) (rest : List Char) (column : Nat) :
    (Cursor.mk (pre ++ rest) column).moveTo rest = ⟨rest, column + pre.length⟩ := by
  have whole := takeWhile_flat flat []
  rw [List.takeWhile_nil, List.append_nil] at whole
  simp only [moveTo, take_passed, whole, List.length_reverse, if_true]

theorem moveTo_lines {last : List Char} (flat : '\n' ∉ last) (pre rest : List Char) (column : Nat) :
    (Cursor.mk ((pre ++ '\n' :: last) ++ rest) column).moveTo rest = ⟨rest, last.length⟩ := by
  have last_line : (pre ++ '\n' :: last).reverse.takeWhile (· != '\n') = last.reverse := by
    rw [List.reverse_append, List.reverse_cons, List.append_assoc, takeWhile_flat flat]
    simp
  have shorter : last.length ≠ (pre ++ '\n' :: last).length := by
    simp only [List.length_append, List.length_cons]
    omega
  simp only [moveTo, take_passed, last_line, List.length_reverse, if_neg shorter]

theorem rest_moveTo (c : Cursor) (rest : List Char) : (c.moveTo rest).rest = rest := by
  unfold moveTo
  dsimp only
  split <;> rfl

theorem skipFrom_settled {cs : List Char} (settled : Settled cs) : skipFrom false cs = cs := by
  cases cs with
  | nil => rfl
  | cons c cs =>
    obtain ⟨no_blank, no_break, no_comment⟩ := settled c rfl
    rw [skipFrom, if_neg no_break, if_neg Bool.false_ne_true, if_neg no_blank, if_neg no_comment]

theorem skipFrom_blanks (n : Nat) {cs : List Char} (settled : Settled cs) :
    skipFrom false (List.replicate n ' ' ++ cs) = cs := by
  induction n with
  | zero => exact skipFrom_settled settled
  | succ n ih =>
    rw [List.replicate_succ, List.cons_append, skipFrom, if_neg (by decide),
      if_neg Bool.false_ne_true, if_pos rfl, ih]

/-- Blanks are skipped. -/
theorem skip_blanks (n : Nat) {cs : List Char} (settled : Settled cs) (column : Nat) :
    (Cursor.mk (List.replicate n ' ' ++ cs) column).skip = ⟨cs, column + n⟩ := by
  rw [skip, skipFrom_blanks n settled, moveTo_line (by simp), List.length_replicate]

/-- A line break is skipped, with the blanks after it. -/
theorem skip_nextLine (k : Nat) {cs : List Char} (settled : Settled cs) (column : Nat) :
    (Cursor.mk (nextLine k cs) column).skip = ⟨cs, k⟩ := by
  have skipped : skipFrom false (nextLine k cs) = cs := by
    rw [nextLine, skipFrom, if_pos rfl, skipFrom_blanks k settled]
  have flat : '\n' ∉ List.replicate k ' ' := by simp
  have moved := moveTo_lines flat [] cs column
  rw [List.length_replicate] at moved
  rw [skip, skipped]
  exact moved

theorem skip_settled {cs : List Char} (settled : Settled cs) (column : Nat) :
    (Cursor.mk cs column).skip = ⟨cs, column⟩ := skip_blanks 0 settled column

theorem sameLine_append (pre rest : List Char) (column column' : Nat) :
    (Cursor.mk (pre ++ rest) column).sameLine ⟨rest, column'⟩ = !pre.contains '\n' := by
  rw [sameLine, take_passed]

/-- Nothing is left of a line before a line break. -/
theorem atLineEnd_nextLine {c : Cursor} {k : Nat} {cs : List Char} (h : c.rest = nextLine k cs) :
    c.atLineEnd = true := by
  rw [atLineEnd, h, nextLine, List.dropWhile_cons_of_neg (by decide)]
  rfl

end Cursor

/-! ## Values on a line -/

/-- A text that reads as a value after a key, if a line follows that starts further out than the
value may go on.  It has nothing but visible characters, blanks and line breaks. -/
structure IsInline (indent : Nat) (body : List Char) (v : Plain) : Prop where
  tidy : IsTidy body
  starts : body ≠ [] ∧ Settled body
  reads : ∀ (fuel least column k : Nat) (cs : List Char), least ≤ indent → k < least → Settled cs →
    ∃ c, inlineNode? fuel least ⟨body ++ nextLine k cs, column⟩ = some (.scalar v, c) ∧
      c.rest = nextLine k cs

section

variable (fuel least column : Nat) {k : Nat} {text rest : List Char}

theorem no_bracket (square : ∀ more, text ≠ '[' :: more) (curly : ∀ more, text ≠ '\x7b' :: more) :
    (decide (text.head? = some '[') || decide (text.head? = some '\x7b')) = false := by
  simp only [Bool.or_eq_false_iff, decide_eq_false_iff_not, List.head?_eq_some_iff, not_exists]
  exact ⟨square, curly⟩

/-- A quoted text that the line ends after is a value. -/
theorem inlineNode?_quoted {s : String}
    (read : quoted? text = some (some (s, nextLine k rest))) :
    ∃ c, inlineNode? fuel least ⟨text, column⟩ = some (.scalar (.text s), c) ∧
      c.rest = nextLine k rest := by
  have moved := Cursor.rest_moveTo ⟨text, column⟩ (nextLine k rest)
  have no_bracket := @no_bracket text (fun more same => by subst same; simp [quoted?] at read)
    fun more same => by subst same; simp [quoted?] at read
  refine ⟨_, ?_, moved⟩
  simp [inlineNode?, no_bracket, read, Cursor.atLineEnd_nextLine moved, scalarNode]

/-- So is a text without quotes. -/
theorem inlineNode?_plain {s : String} (unquoted : quoted? text = none)
    (starts : startsPlain false text = true)
    (read : plainText ⟨false, true, least⟩ {} column text text = (s, nextLine k rest)) :
    ∃ c, inlineNode? fuel least ⟨text, column⟩ = some (.scalar (Scalar.resolve s), c) ∧
      c.rest = nextLine k rest := by
  have moved := Cursor.rest_moveTo ⟨text, column⟩ (nextLine k rest)
  have no_bracket := @no_bracket text
    (fun more same => by subst same; simp [startsPlain, indicators] at starts)
    fun more same => by subst same; simp [startsPlain, indicators] at starts
  refine ⟨_, ?_, moved⟩
  simp [inlineNode?, no_bracket, unquoted, starts, read, Cursor.atLineEnd_nextLine moved, plainNode]

end

theorem isInline_single {indent : Nat} (positive : 0 < indent) {cs out : List Char}
    (laid : Laid true indent .word cs out) (tidy : IsTidy cs) :
    IsInline indent ('\'' :: (out ++ ['\''])) (.text (String.ofList cs)) where
  tidy := isTidy_cons.2 ⟨by decide, isTidy_append.2 ⟨laid.isTidy tidy, by decide⟩⟩
  starts := ⟨List.cons_ne_nil _ _, fun c head => by cases head; decide⟩
  reads fuel least column k rest _ _ _ := by
    have read : singleQuoted? {} (out ++ '\'' :: nextLine k rest) =
        some (String.ofList cs, nextLine k rest) :=
      singleQuoted?_laid laid positive ⟨rfl, rfl⟩ fun same => by cases same
    refine inlineNode?_quoted fuel least column ?_
    simp [quoted?, read]

theorem isInline_double {indent : Nat} {cs out : List Char} (escaped : Escaped indent cs out) :
    IsInline indent ('"' :: (out ++ ['"'])) (.text (String.ofList cs)) where
  tidy := isTidy_cons.2 ⟨by decide, isTidy_append.2 ⟨escaped.isTidy, by decide⟩⟩
  starts := ⟨List.cons_ne_nil _ _, fun c head => by cases head; decide⟩
  reads fuel least column k rest _ _ _ := by
    have read : doubleQuoted? {} .no (out ++ '"' :: nextLine k rest) =
        some (String.ofList cs, nextLine k rest) :=
      doubleQuoted?_escaped escaped rfl (nextLine k rest)
    refine inlineNode?_quoted fuel least column ?_
    simp [quoted?, read]

/-- A plain scalar ends where a line starts further out. -/
theorem plainText_nextLine {least k : Nat} {rest : List Char} (outer : k < least)
    (settled : Settled rest) (t : Folded) (column : Nat) (left : List Char) :
    plainText ⟨false, true, least⟩ t column left (nextLine k rest) =
      (plainText.wordsOf t, left) := by
  have blanks : ∀ n column, column + n = k →
      plainText ⟨false, true, least⟩ t.newline column left (List.replicate n ' ' ++ rest) =
        (plainText.wordsOf t, left) := by
    intro n
    induction n with
    | zero =>
      intro column here
      cases rest with
      | nil => rfl
      | cons c rest =>
        obtain ⟨no_blank, no_break, -⟩ := settled c rfl
        have outside : column < least := by omega
        rw [List.replicate_zero, List.nil_append, plainText, if_neg no_blank, if_neg no_break,
          if_pos (by simp [Folded.newline, outside])]
        rfl
    | succ n ih =>
      intro column here
      rw [List.replicate_succ, List.cons_append, plainText, if_pos rfl]
      exact ih (column + 1) (by omega)
  rw [nextLine, plainText, if_neg (by decide), if_pos rfl]
  split
  · exact blanks k 0 (by omega)
  · rfl

/-- A text without quotes can start with its first letter, unless that is a mark. -/
theorem startsPlain_of_unmarked {c : Char} {cs out : List Char} {indent : Nat}
    (laid : Laid false indent .word cs out) (isLetter : IsLetter c)
    (no_mark : Style.isMarkAt none c cs = false) (rest : List Char) :
    startsPlain false (c :: (out ++ rest)) = true := by
  simp only [Style.isMarkAt, Bool.or_eq_false_iff] at no_mark
  obtain ⟨no_first_mark, no_space⟩ := no_mark
  by_cases dash : c = '-' ∨ c = '?' ∨ c = ':'
  · have in_word : endsWord (out ++ rest) = false := by
      cases cs with
      | nil => rcases dash with rfl | rfl | rfl <;> simp at no_space
      | cons d more =>
        have next : Style.isSpace d = false := by
          rcases dash with rfl | rfl | rfl <;> simpa using no_space
        exact laid.endsWord_eq_false next rest
    rcases dash with rfl | rfl | rfl <;> simp [startsPlain, in_word]
  · have no_indicator : indicators.contains c = false := by
      obtain ⟨no_blank, no_tab, no_break⟩ := isLetter
      simp only [not_or] at dash
      simp [Style.firstMarks] at no_first_mark
      simp [indicators, no_first_mark, dash, no_blank, no_tab, no_break]
    rw [startsPlain, no_indicator]
    rfl

/-- **A text without quotes is read as what it means.** -/
theorem isInline_plain {indent : Nat} (positive : 0 < indent) {c : Char} {cs out : List Char}
    (laid : Laid false indent .word (c :: cs) out) (tidy : IsTidy (c :: cs)) (isLetter : IsLetter c)
    (unmarked : Unmarked none (c :: cs)) (closed : ClosesInWord (c :: cs)) :
    IsInline indent out (Scalar.resolve (String.ofList (c :: cs))) := by
  obtain ⟨later, rfl, laid_later⟩ := laid.first_letter isLetter
  obtain ⟨no_mark, -⟩ := unmarked_cons.1 unmarked
  have no_first_mark : Style.firstMarks.contains c = false := by
    simp only [Style.isMarkAt, Bool.or_eq_false_iff] at no_mark
    exact no_mark.1
  simp [Style.firstMarks] at no_first_mark
  refine ⟨laid.isTidy tidy, ⟨List.cons_ne_nil _ _, ?_⟩, ?_⟩
  · rintro d ⟨⟩
    exact ⟨isLetter.1, isLetter.2.2, no_first_mark.1⟩
  · intro fuel least column k rest inside outer settled
    have read : plainText ⟨false, true, least⟩ {} column
        (laidChar false c ++ later ++ nextLine k rest)
        (laidChar false c ++ later ++ nextLine k rest) =
          (String.ofList (c :: cs), nextLine k rest) :=
      plainText_laid laid rfl rfl inside positive ⟨rfl, rfl⟩ (fun other => by cases other)
        (fun other => absurd rfl other) unmarked closed (fun none => by cases none)
        (plainText_nextLine outer settled)
    refine inlineNode?_plain fuel least column ?_ ?_ read
    · simp [laidChar, quoted?, no_first_mark]
    · exact startsPlain_of_unmarked laid_later isLetter no_mark (nextLine k rest)

/-! ## Texts -/

section

variable {previous : Option Char} {cs : List Char}

theorem isTidy_of_special (h : (Style.traitsFrom previous cs).special = false) : IsTidy cs := by
  induction cs generalizing previous with
  | nil => exact isTidy_nil
  | cons c cs ih =>
    simp only [Style.traitsFrom, Bool.or_eq_false_iff] at h
    refine isTidy_cons.2 ⟨?_, ih h.1⟩
    by_cases line_break : c = '\n'
    · simp [isTidyChar, line_break]
    · simpa [Style.isSpecial, isTidyChar, line_break] using h.2

theorem no_break_of_lines (h : (Style.traitsFrom previous cs).lines = false) : '\n' ∉ cs := by
  induction cs generalizing previous with
  | nil => exact List.not_mem_nil
  | cons c cs ih =>
    simp only [Style.traitsFrom, Bool.or_eq_false_iff] at h
    refine List.not_mem_cons_of_ne_of_not_mem ?_ (ih h.1)
    rintro rfl
    exact absurd h.2 (by decide)

theorem last_ne_blank (h : (Style.traitsFrom previous cs).openEnds = false) :
    ∀ c ∈ cs.getLast?, c ≠ ' ' := by
  induction cs generalizing previous with
  | nil => intro c last; cases last
  | cons c cs ih =>
    simp only [Style.traitsFrom, Bool.or_eq_false_iff] at h
    cases cs with
    | nil =>
      rintro d ⟨⟩ rfl
      exact absurd h.2 (by simp)
    | cons d cs => exact ih h.1

theorem first_ne_blank (h : (Style.traitsFrom none cs).openEnds = false) :
    ∀ c ∈ cs.head?, c ≠ ' ' := by
  cases cs with
  | nil => intro c head; cases head
  | cons c cs =>
    simp only [Style.traitsFrom, Bool.or_eq_false_iff] at h
    rintro d ⟨⟩ rfl
    exact absurd h.2 (by simp)

end

theorem no_tab_of_isTidy {cs : List Char} (tidy : IsTidy cs) : '\t' ∉ cs := fun mem =>
  absurd (tidy _ mem) (by decide)

/-- What is known of a text by the style it is written in. -/
theorem ofText_cases (s : String) :
    Style.ofText s = .double ∨
      (IsTidy s.toList ∧ Apart none s.toList ∧
        (Style.ofText s = .single ∨
          (Style.ofText s = .plain ∧ Scalar.isText s = true ∧ Unmarked none s.toList ∧
            (Style.traitsFrom none s.toList).lines = false ∧
              (Style.traitsFrom none s.toList).openEnds = false))) := by
  have special : (Style.traits s.toList).special = (Style.traitsFrom none s.toList).special := rfl
  have blank_break : (Style.traits s.toList).blankBreak =
      (Style.traitsFrom none s.toList).blankBreak := rfl
  have break_blank : (Style.traits s.toList).breakBlank =
      (Style.traitsFrom none s.toList).breakBlank := rfl
  rw [Style.ofText]
  split
  · exact .inl rfl
  · rename_i no_escape
    rw [Bool.not_eq_true, Bool.or_eq_false_iff, special, blank_break] at no_escape
    split
    · exact .inl rfl
    · rename_i no_break_blank
      rw [Bool.not_eq_true, break_blank] at no_break_blank
      refine .inr ⟨isTidy_of_special no_escape.1, ⟨no_break_blank, no_escape.2⟩, ?_⟩
      split
      · rename_i plain
        simp only [Bool.and_eq_true, Bool.not_eq_true', Style.traits, Bool.or_eq_false_iff] at plain
        exact .inr ⟨rfl, plain.1.1.1, plain.1.1.2.1.1, plain.1.2, plain.2⟩
      · exact .inl rfl

/-- A text that is written without quotes starts and ends with letters. -/
theorem letters_of_plain {s : String} (tidy : IsTidy s.toList) (is_text : Scalar.isText s = true)
    (lines : (Style.traitsFrom none s.toList).lines = false)
    (ends : (Style.traitsFrom none s.toList).openEnds = false) :
    ∃ c cs, s.toList = c :: cs ∧ IsLetter c ∧ ClosesInWord (c :: cs) := by
  have letter : ∀ c ∈ s.toList, c ≠ ' ' → IsLetter c := fun c mem no_blank =>
    ⟨no_blank, fun same => no_tab_of_isTidy tidy (same ▸ mem),
      fun same => no_break_of_lines lines (same ▸ mem)⟩
  obtain ⟨c, cs, whole⟩ : ∃ c cs, s.toList = c :: cs := by
    refine List.exists_cons_of_ne_nil fun none => ?_
    rw [String.toList_eq_nil_iff] at none
    subst none
    revert is_text
    decide
  rw [whole] at letter ends
  refine ⟨c, cs, whole, letter c List.mem_cons_self (first_ne_blank ends c rfl), fun d last => ?_⟩
  exact letter d (List.mem_of_getLast? last) (last_ne_blank ends d last)

theorem toList_text (l : Line) : l.text.toList = l.reversed.reverse := String.toList_ofList

theorem toList_text_add (l : Line) (cs : List Char) :
    (l.add cs).text.toList = l.reversed.reverse ++ cs := by
  rw [toList_text, Line.add, List.reverse_append, List.reverse_reverse]

/-- **Every text is written so that it reads as a value.** -/
theorem isInline_text (column : Nat) {indent : Nat} (positive : 0 < indent)
    (narrow : indent + 1 ≤ bestWidth) (s : String) :
    ∃ body, (Style.write column indent s).toList = ' ' :: body ∧
      IsInline indent body (.text s) := by
  have same : String.ofList s.toList = s := String.ofList_toList
  have laid : ∀ quoted l, Apart none s.toList → IsTidy s.toList → ∃ out,
      Laid quoted indent .word s.toList out ∧
        (Style.writeRuns indent quoted l true (Style.runs s.toList)).reversed =
          out.reverse ++ l.reversed := by
    intro quoted l apart tidy
    have spaced := spaced_runs (e := .word) (no_tab_of_isTidy tidy) apart fun other =>
      absurd rfl other
    have written := laid_writeRuns indent quoted spaced l true
    rwa [flatten_runs] at written
  rw [Style.write]
  rcases ofText_cases s with
    double | ⟨tidy, apart, single | ⟨plain, is_text, unmarked, lines, ends⟩⟩
  · obtain ⟨out, escaped, reversed⟩ := escaped_writeEscaped narrow
      ((Line.mk [] column).add [' ', '"']) [] true s.toList
    refine ⟨_, ?_, same ▸ isInline_double escaped⟩
    rw [double, toList_text_add, reversed]
    simp [Line.add]
  · obtain ⟨out, laid, reversed⟩ := laid true ((Line.mk [] column).add [' ', '\'']) apart tidy
    refine ⟨_, ?_, same ▸ isInline_single positive laid tidy⟩
    rw [single, toList_text_add, reversed]
    simp [Line.add]
  · obtain ⟨out, laid, reversed⟩ := laid false ((Line.mk [] column).add [' ']) apart tidy
    obtain ⟨c, cs, whole, isLetter, closed⟩ := letters_of_plain tidy is_text lines ends
    have meaning : Scalar.resolve s = .text s := by
      simp only [Scalar.isText, Bool.and_eq_true, decide_eq_true_eq] at is_text
      exact is_text.1
    have read := isInline_plain positive (whole ▸ laid) (whole ▸ tidy) isLetter (whole ▸ unmarked)
      closed
    rw [← whole, same, meaning] at read
    refine ⟨out, ?_, read⟩
    rw [plain, toList_text, reversed]
    simp [Line.add]

/-! ## Other values -/

/-- A word without marks is read as what it means. -/
theorem isInline_word {indent : Nat} (positive : 0 < indent) {c : Char} {cs : List Char}
    (letters : ∀ d ∈ c :: cs, IsLetter d) (tidy : IsTidy (c :: cs))
    (unmarked : Unmarked none (c :: cs)) :
    IsInline indent (c :: cs) (Scalar.resolve (String.ofList (c :: cs))) := by
  have laid : Laid false indent .word ((c :: cs) ++ [])
      ((c :: cs).flatMap (laidChar false) ++ []) := Laid.nil.word (List.cons_ne_nil c cs) letters
  rw [← laidRun_eq, if_neg Bool.false_ne_true, List.append_nil] at laid
  exact isInline_plain positive laid tidy (letters c List.mem_cons_self) unmarked
    fun d last => letters d (List.mem_of_getLast? last)

/-- A character of a number. -/
theorem numeral_spec {c : Char} (h : c.isDigit = true ∨ c = '-') :
    IsLetter c ∧ isTidyChar c = true ∧ c ≠ ':' ∧ c ≠ '#' := by
  rcases h with digit | rfl
  · have differ : ∀ {d : Char}, d.isDigit = false → c ≠ d := by
      rintro d no_digit rfl
      rw [no_digit] at digit
      cases digit
    have bounds : (decide ('0' ≤ c) && decide (c ≤ '9')) = true := digit
    rw [Bool.and_eq_true, decide_eq_true_eq, decide_eq_true_eq] at bounds
    have tidy : isTidyChar c = true := isTidyChar_of_between (by decide) (by decide) bounds
    exact ⟨⟨differ rfl, differ rfl, differ rfl⟩, tidy, differ rfl, differ rfl⟩
  · exact ⟨⟨by decide, by decide, by decide⟩, by decide, by decide, by decide⟩

theorem unmarked_inside {p : Char} {cs : List Char} (plain : ∀ c ∈ cs, c ≠ ':' ∧ c ≠ '#') :
    Unmarked (some p) cs := by
  induction cs generalizing p with
  | nil => rfl
  | cons c cs ih =>
    obtain ⟨⟨no_colon, no_sign⟩, plain⟩ := List.forall_mem_cons.1 plain
    exact unmarked_cons.2 ⟨by simp [Style.isMarkAt, no_colon, no_sign], ih plain⟩

/-- A number is no mark, nor does it start with one. -/
theorem unmarked_digits {negative : Bool} {n : Nat} {c : Char} {cs : List Char}
    (text : c :: cs = (if negative then ['-'] else []) ++ Nat.toDigits 10 n) :
    Unmarked none (c :: cs) := by
  obtain ⟨d, ds, digits⟩ := List.exists_cons_of_ne_nil (@Nat.toDigits_ne_nil n 10)
  have digit : ∀ x ∈ d :: ds, x.isDigit = true := fun x mem => Scalar.isDigit_of_mem (digits ▸ mem)
  have inside : ∀ p, ∀ {xs : List Char}, (∀ x ∈ xs, x.isDigit = true) → Unmarked (some p) xs :=
    fun p xs all => unmarked_inside fun x mem => (numeral_spec (.inl (all x mem))).2.2
  have differ : ∀ {x : Char}, x.isDigit = false → d ≠ x := by
    rintro x no_digit rfl
    rw [digit _ List.mem_cons_self] at no_digit
    cases no_digit
  rw [digits] at text
  cases negative with
  | true =>
    cases text
    have no_space : Style.isSpace d = false := by
      simp [Style.isSpace, differ]
    exact unmarked_cons.2 ⟨by simp [Style.isMarkAt, Style.firstMarks, no_space], inside _ digit⟩
  | false =>
    cases text
    refine unmarked_cons.2 ⟨?_, inside _ fun x mem => digit x (List.mem_cons_of_mem _ mem)⟩
    simp [Style.isMarkAt, Style.firstMarks, differ]

theorem isInline_int {indent : Nat} (positive : 0 < indent) (n : Int) :
    IsInline indent (toString n).toList (.int n) := by
  obtain ⟨negative, m, rfl, text⟩ := Scalar.exists_digits n
  obtain ⟨c, cs, whole⟩ : ∃ c cs, (toString (Text.applySign negative m)).toList = c :: cs := by
    refine List.exists_cons_of_ne_nil fun none => ?_
    rw [none] at text
    exact Nat.toDigits_ne_nil (List.append_eq_nil_iff.1 text.symm).2
  have numeral : ∀ d ∈ c :: cs, d.isDigit = true ∨ d = '-' := by
    intro d mem
    rw [← whole, text] at mem
    rcases List.mem_append.1 mem with sign | digit
    · cases negative with
      | true => exact .inr (List.mem_singleton.1 sign)
      | false => exact absurd sign List.not_mem_nil
    · exact .inl (Scalar.isDigit_of_mem digit)
  have read := isInline_word positive (fun d mem => (numeral_spec (numeral d mem)).1)
    (fun d mem => (numeral_spec (numeral d mem)).2.1) (unmarked_digits (whole ▸ text))
  rwa [← whole, String.ofList_toList, Scalar.resolve_toString] at read

/-- Values that are written on a line. -/
def IsSingle : Plain → Prop
  | .null => True
  | .bool _ => True
  | .int _ => True
  | .text _ => True
  | _ => False

/-- **A single value is written so that it reads back.** -/
theorem isInline_writeValue (column : Nat) {indent : Nat} (positive : 0 < indent)
    (narrow : indent + 1 ≤ bestWidth) {v : Plain} (single : IsSingle v) :
    ∃ body, (writeValue column indent v).toList = ' ' :: body ∧ IsInline indent body v := by
  cases v with
  | null =>
    exact ⟨"null".toList, by simp [writeValue],
      isInline_word positive (by decide) (by decide) rfl⟩
  | bool b =>
    cases b with
    | true =>
      exact ⟨"true".toList, by simp [writeValue],
        isInline_word positive (by decide) (by decide) rfl⟩
    | false =>
      exact ⟨"false".toList, by simp [writeValue],
        isInline_word positive (by decide) (by decide) rfl⟩
  | int n => exact ⟨(toString n).toList, by simp [writeValue], isInline_int positive n⟩
  | text s => exact isInline_text column positive narrow s
  | _ => exact absurd single id

end ModelFormula.Document
