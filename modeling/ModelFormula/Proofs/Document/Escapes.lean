import Mathlib.Algebra.Group.Nat.Defs
import ModelFormula.Document.Folding
import ModelFormula.Document.Style
import ModelFormula.Proofs.Dictionary

/-!
# Texts in double quotes

Inside double quotes every text can be written: what is not visible is escaped, and long lines end
with a backslash.

* `Escaped` — the ways to write a text there; lines may end anywhere.
* `doubleQuoted?_escaped` — a text reads back however it is written.
* `escaped_writeEscaped` — texts are written in one of these ways.
* `IsTidy` — only visible characters, blanks and line breaks; `Escaped.isTidy` — no others are
  written.
-/

set_option autoImplicit false

namespace ModelFormula.Document

open Style (needsEscape escaped escapeLetters upperHex writeEscaped foldEscaped bestWidth Line)

/-! ## The ways to write a text -/

/-- A text as it may be written inside double quotes, with line breaks before so many blanks.  After
a line break a blank needs a backslash, since others would not count. -/
inductive Escaped (indent : Nat) : List Char → List Char → Prop
  | nil : Escaped indent [] []
  | plain {c : Char} {cs out : List Char} (visible : needsEscape c = false)
      (later : Escaped indent cs out) : Escaped indent (c :: cs) (c :: out)
  | escape {c : Char} {cs out : List Char} (hidden : needsEscape c = true)
      (later : Escaped indent cs out) : Escaped indent (c :: cs) (escaped c ++ out)
  | blank {cs out : List Char} (later : Escaped indent cs out) :
      Escaped indent (' ' :: cs) ('\\' :: ' ' :: out)
  | fold {cs out : List Char} (later : Escaped indent cs out) (settled : out.head? ≠ some ' ') :
      Escaped indent cs ('\\' :: '\n' :: (List.replicate indent ' ' ++ out))

/-! ## Reading -/

namespace Folded

variable {t : Folded}

theorem flushed_push (c : Char) : (t.push c).flushed = c :: t.flushed := rfl

theorem flushed_blank (flat : t.breaks = none) (c : Char) :
    (t.blank c).flushed = c :: t.flushed ∧ (t.blank c).breaks = none := by
  simp [blank, flushed, flat]

end Folded

/-- The digits of a number read back. -/
theorem hexDigitValue?_digit :
    ∀ d < 16, Text.hexDigitValue? (Char.toUpper (Nat.digitChar d)) = some d := by
  decide

/-- The number that hexadecimal digits continue. -/
def hexNumber (value : Nat) (ds : List Char) : Nat :=
  ds.foldl (fun n c => 16 * n + (Text.hexDigitValue? c).getD 0) value

theorem hexNumber_append (value : Nat) (ds es : List Char) :
    hexNumber value (ds ++ es) = hexNumber (hexNumber value ds) es := List.foldl_append

theorem hexNumber_toDigits (n : Nat) :
    hexNumber 0 ((Nat.toDigits 16 n).map Char.toUpper) = n ∧
      ∀ c ∈ (Nat.toDigits 16 n).map Char.toUpper, (Text.hexDigitValue? c).isSome = true := by
  induction n using Nat.strongRecOn with
  | _ n ih =>
    by_cases small : n < 16
    · have digit := hexDigitValue?_digit n small
      rw [Nat.toDigits_of_lt_base small]
      simp [hexNumber, digit]
    · obtain ⟨value, digits⟩ := ih (n / 16) (by omega)
      have digit := hexDigitValue?_digit (n % 16) (by omega)
      rw [Nat.toDigits_of_base_le (by decide) (by omega), List.map_append]
      constructor
      · rw [hexNumber_append, value]
        simp only [hexNumber, List.map_cons, List.map_nil, List.foldl_cons, List.foldl_nil, digit,
          Option.getD_some]
        omega
      · intro c mem
        rcases List.mem_append.1 mem with mem | mem
        · exact digits c mem
        · simp only [List.map_cons, List.map_nil, List.mem_singleton] at mem
          rw [mem, digit]
          rfl

theorem hexNumber_upperHex (width n : Nat) :
    hexNumber 0 (upperHex width n) = n ∧
      ∀ c ∈ upperHex width n, (Text.hexDigitValue? c).isSome = true := by
  obtain ⟨value, digits⟩ := hexNumber_toDigits n
  have zeros : ∀ k, hexNumber 0 (List.replicate k '0') = 0 := by
    intro k
    induction k with
    | zero => rfl
    | succ k ih => exact ih
  constructor
  · rw [upperHex, hexNumber_append, zeros]
    exact value
  · intro c mem
    rcases List.mem_append.1 mem with mem | mem
    · rw [List.eq_of_mem_replicate mem]
      decide
    · exact digits c mem

theorem length_upperHex {width n : Nat} (positive : 0 < width) (bound : n < 16 ^ width) :
    (upperHex width n).length = width := by
  have fits : (Nat.toDigits 16 n).length ≤ width :=
    (Nat.length_toDigits_le_iff (by decide) positive).2 bound
  simp only [upperHex, List.length_append, List.length_replicate, List.length_map]
  omega

/-- The digits of a code are read up to its last one. -/
theorem doubleQuoted?_code (t : Folded) (rest : List Char) {ds : List Char} (some_digit : ds ≠ [])
    (value : Nat) (digits : ∀ c ∈ ds, (Text.hexDigitValue? c).isSome = true)
    (valid : (hexNumber value ds).isValidChar) :
    doubleQuoted? t (.code ds.length value) (ds ++ rest) =
      doubleQuoted? (t.push (Char.ofNat (hexNumber value ds))) .no rest := by
  induction ds generalizing value with
  | nil => exact absurd rfl some_digit
  | cons c ds ih =>
    obtain ⟨d, digit⟩ := Option.isSome_iff_exists.1 (digits c List.mem_cons_self)
    have next : hexNumber value (c :: ds) = hexNumber (16 * value + d) ds := by
      simp [hexNumber, digit]
    rw [next] at valid ⊢
    rw [List.cons_append, doubleQuoted?]
    simp only [digit]
    by_cases last : ds = []
    · subst last
      rw [if_pos (by simp)]
      exact if_pos valid
    · have more : 0 < ds.length := List.length_pos_iff.2 last
      rw [if_neg (by simp only [List.length_cons]; omega)]
      exact ih last _ (fun x mem => digits x (List.mem_cons_of_mem _ mem)) valid

/-- The letters of escapes are read as what they stand for. -/
theorem escapeLetters_spec :
    ∀ e ∈ escapeLetters, e.2 ≠ '\n' ∧ codeLength? e.2 = none ∧ escapes.get? e.2 = some e.1 := by
  decide

/-- A code of any length is read back. -/
theorem doubleQuoted?_hex {c letter : Char} {width : Nat} (t : Folded) (rest : List Char)
    (announced : codeLength? letter = some width) (not_break : letter ≠ '\n')
    (positive : 0 < width) (bound : c.toNat < 16 ^ width) :
    doubleQuoted? t .no ('\\' :: letter :: (upperHex width c.toNat ++ rest)) =
      doubleQuoted? (t.push c) .no rest := by
  obtain ⟨value, digits⟩ := hexNumber_upperHex width c.toNat
  have length := length_upperHex positive bound
  have some_digit : upperHex width c.toNat ≠ [] := List.ne_nil_of_length_pos (by omega)
  have read := doubleQuoted?_code t rest some_digit 0 digits (value.symm ▸ c.valid)
  rw [length, value, Char.ofNat_toNat] at read
  rw [doubleQuoted?, doubleQuoted?.plainChar, if_neg (by decide), if_pos rfl, doubleQuoted?,
    if_neg not_break, announced]
  exact read

theorem doubleQuoted?_escape (t : Folded) (c : Char) (rest : List Char) :
    doubleQuoted? t .no (escaped c ++ rest) = doubleQuoted? (t.push c) .no rest := by
  unfold escaped
  cases found : escapeLetters.get? c with
  | some letter =>
    obtain ⟨not_break, no_code, meant⟩ :=
      escapeLetters_spec (c, letter) (Dictionary.mem_of_get? found)
    dsimp only at not_break no_code meant ⊢
    rw [List.cons_append, List.singleton_append, doubleQuoted?, doubleQuoted?.plainChar,
      if_neg (by decide), if_pos rfl, doubleQuoted?, if_neg not_break, no_code, meant]
  | none =>
    dsimp only
    split
    · exact doubleQuoted?_hex t rest rfl (by decide) (by decide) (by omega)
    · split
      · exact doubleQuoted?_hex t rest rfl (by decide) (by decide) (by omega)
      · have small : c.toNat < 0x110000 := by
          have := c.valid
          simp only [UInt32.isValidChar, Nat.isValidChar] at this
          change c.val.toNat < 0x110000
          omega
        exact doubleQuoted?_hex t rest rfl (by decide) (by decide) (by omega)

/-- What may follow the blanks of a line that is joined to the one before. -/
theorem doubleQuoted?_joined (t : Folded) (n : Nat) {rest : List Char}
    (settled : ∀ c ∈ rest.head?, c ≠ ' ' ∧ c ≠ '\t' ∧ c ≠ '\n') :
    doubleQuoted? t .joined (List.replicate n ' ' ++ rest) = doubleQuoted? t .no rest := by
  induction n with
  | zero =>
    cases rest with
    | nil => simp [doubleQuoted?]
    | cons c rest =>
      obtain ⟨no_blank, no_tab, no_break⟩ := settled c rfl
      rw [List.replicate_zero, List.nil_append, doubleQuoted?, doubleQuoted?,
        if_neg (by simp [no_blank, no_tab]), if_neg no_break]
  | succ n ih =>
    rw [List.replicate_succ, List.cons_append, doubleQuoted?, if_pos (.inl rfl)]
    exact ih

/-- A character that is written as it is keeps a line on its way. -/
theorem doubleQuoted?_visible {t : Folded} {c : Char} (flat : t.breaks = none)
    (visible : needsEscape c = false) :
    ∃ u : Folded, u.breaks = none ∧ u.flushed = c :: t.flushed ∧
      ∀ rest, doubleQuoted? t .no (c :: rest) = doubleQuoted? u .no rest := by
  simp only [needsEscape, Bool.or_eq_false_iff, decide_eq_false_iff_not] at visible
  obtain ⟨⟨no_quote, no_backslash⟩, in_range⟩ := visible
  have no_break : c ≠ '\n' := by
    rintro rfl
    revert in_range
    decide
  have reads : ∀ rest, doubleQuoted? t .no (c :: rest) =
      doubleQuoted? (if c = ' ' ∨ c = '\t' then t.blank c else t.push c) .no rest := fun rest => by
    rw [doubleQuoted?, doubleQuoted?.plainChar, if_neg no_quote, if_neg no_backslash,
      if_neg no_break]
  by_cases blank : c = ' ' ∨ c = '\t'
  · obtain ⟨flushed, still_flat⟩ := Folded.flushed_blank flat c
    exact ⟨t.blank c, still_flat, flushed, fun rest => by rw [reads, if_pos blank]⟩
  · exact ⟨t.push c, rfl, rfl, fun rest => by rw [reads, if_neg blank]⟩

/-- No line of an escaped text starts with a blank or a break, unless the text does. -/
theorem Escaped.head_eq {indent : Nat} {cs out : List Char} (h : Escaped indent cs out) {c : Char}
    (head : out.head? = some c) : c = '\\' ∨ (needsEscape c = false ∧ cs.head? = some c) := by
  cases h with
  | nil => cases head
  | plain visible later =>
    cases head
    exact .inr ⟨visible, rfl⟩
  | @escape d cs out hidden later =>
    left
    unfold escaped at head
    split at head
    · exact (Option.some.inj head).symm
    · split at head
      · exact (Option.some.inj head).symm
      · split at head <;> exact (Option.some.inj head).symm
  | blank later => exact .inl (Option.some.inj head).symm
  | fold later settled => exact .inl (Option.some.inj head).symm

/-- A line that does not start with a blank starts with a character that counts. -/
theorem Escaped.settled_head {indent : Nat} {cs out : List Char} (h : Escaped indent cs out)
    (settled : out.head? ≠ some ' ') (rest : List Char) :
    ∀ c ∈ (out ++ '"' :: rest).head?, c ≠ ' ' ∧ c ≠ '\t' ∧ c ≠ '\n' := by
  intro c mem
  cases out with
  | nil =>
    cases mem
    decide
  | cons d out =>
    cases mem
    rcases h.head_eq rfl with rfl | ⟨visible, -⟩
    · decide
    · refine ⟨fun same => settled (by rw [same]; rfl), ?_, ?_⟩
      · rintro rfl
        revert visible
        decide
      · rintro rfl
        revert visible
        decide

theorem doubleQuoted?_blank (t : Folded) (rest : List Char) :
    doubleQuoted? t .no ('\\' :: ' ' :: rest) = doubleQuoted? (t.push ' ') .no rest := by
  rw [doubleQuoted?, doubleQuoted?.plainChar, if_neg (by decide), if_pos rfl, doubleQuoted?,
    if_neg (by decide)]
  rfl

/-- A backslash at the end of a line joins it to the next one. -/
theorem doubleQuoted?_fold (t : Folded) (indent : Nat) {rest : List Char}
    (settled : ∀ c ∈ rest.head?, c ≠ ' ' ∧ c ≠ '\t' ∧ c ≠ '\n') :
    doubleQuoted? t .no ('\\' :: '\n' :: (List.replicate indent ' ' ++ rest)) =
      doubleQuoted? t.joinLine .no rest := by
  rw [doubleQuoted?, doubleQuoted?.plainChar, if_neg (by decide), if_pos rfl, doubleQuoted?,
    if_pos rfl, doubleQuoted?_joined t.joinLine indent settled]

/-- **A text in double quotes reads back**, wherever its lines end. -/
theorem doubleQuoted?_escaped {indent : Nat} {cs out : List Char} (h : Escaped indent cs out)
    {t : Folded} (flat : t.breaks = none) (rest : List Char) :
    doubleQuoted? t .no (out ++ '"' :: rest) =
      some (String.ofList (t.flushed.reverse ++ cs), rest) := by
  induction h generalizing t with
  | nil =>
    rw [List.nil_append, List.append_nil, doubleQuoted?, doubleQuoted?.plainChar, if_pos rfl]
    rfl
  | @plain c cs out visible later ih =>
    obtain ⟨u, still_flat, flushed, reads⟩ := doubleQuoted?_visible flat visible
    rw [List.cons_append, reads, ih still_flat, flushed, List.reverse_cons, List.append_assoc]
    rfl
  | @escape c cs out hidden later ih =>
    rw [List.append_assoc, doubleQuoted?_escape, ih (t := t.push c) rfl, Folded.flushed_push,
      List.reverse_cons, List.append_assoc]
    rfl
  | @blank cs out later ih =>
    rw [List.cons_append, List.cons_append, doubleQuoted?_blank, ih (t := t.push ' ') rfl,
      Folded.flushed_push, List.reverse_cons, List.append_assoc]
    rfl
  | @fold cs out later settled ih =>
    have next := later.settled_head settled rest
    rw [List.cons_append, List.cons_append, List.append_assoc, doubleQuoted?_fold t indent next,
      ih (t := t.joinLine) rfl]
    rfl

/-! ## Writing -/

theorem reversed_fold (l : Line) (indent empty : Nat) :
    (l.fold indent empty).reversed =
      List.replicate indent ' ' ++ (List.replicate (empty + 1) '\n' ++ l.reversed) := by
  rw [Line.fold, List.append_assoc]

/-- A fold ends the line with a backslash; so does the next one begin if it goes on with a blank. -/
theorem reversed_foldEscaped (indent : Nat) (l : Line) (next : Option Char) :
    (foldEscaped indent l next).reversed =
      (if next = some ' ' then ['\\'] else []) ++
        (List.replicate indent ' ' ++ ('\n' :: '\\' :: l.reversed)) := by
  unfold foldEscaped
  split
  · rw [Line.add, reversed_fold]
    rfl
  · rw [reversed_fold]
    rfl

theorem column_foldEscaped (indent : Nat) (l : Line) (next : Option Char) :
    (foldEscaped indent l next).column ≤ indent + 1 := by
  unfold foldEscaped
  split
  · exact Nat.le_refl _
  · exact Nat.le_succ _

/-- A blank is not folded away from the start of a line. -/
theorem writeEscaped_blank {indent : Nat} {l : Line} (room : l.column ≤ bestWidth) (first : Bool)
    (rest : List Char) :
    writeEscaped indent l [] first (' ' :: rest) = writeEscaped indent l [' '] false rest := by
  have fits : decide (bestWidth < l.column + ([] : List Char).length) = false :=
    decide_eq_false (by simpa using room)
  rw [writeEscaped, if_neg (by decide), fits, Bool.and_false, if_neg Bool.false_ne_true]

/-- What is written after a fold, and the fold itself. -/
theorem escaped_of_foldEscaped {indent : Nat} {m l : Line} {c : Char} {cs out : List Char}
    (visible : needsEscape c = false) (later : Escaped indent cs out)
    (written : l.reversed = out.reverse ++ ([c] ++ (foldEscaped indent m (some c)).reversed)) :
    ∃ out', Escaped indent (c :: cs) out' ∧ l.reversed = out'.reverse ++ m.reversed := by
  rw [reversed_foldEscaped] at written
  by_cases blank : c = ' '
  · subst blank
    refine ⟨_, .fold (.blank later) (by simp), ?_⟩
    simpa using written
  · refine ⟨_, .fold (.plain visible later) (by simpa using blank), ?_⟩
    simpa [blank] using written

/-- **What is written in double quotes is an escaped text.**  The characters that are pending stand
before it. -/
theorem escaped_writeEscaped {indent : Nat} (narrow : indent + 1 ≤ bestWidth) (l : Line)
    (pending : List Char) (first : Bool) :
    (cs : List Char) → ∃ out, Escaped indent cs out ∧
      (writeEscaped indent l pending first cs).reversed = out.reverse ++ (pending ++ l.reversed)
  | [] => ⟨[], .nil, by rw [writeEscaped, Line.add, List.reverse_reverse]; rfl⟩
  | c :: rest => by
    rw [writeEscaped]
    generalize (!first && !rest.isEmpty) = inner
    cases hidden : needsEscape c with
    | true =>
      rw [if_pos rfl]
      dsimp only
      generalize line : (l.add pending.reverse).add (escaped c) = m
      have before : m.reversed = (escaped c).reverse ++ (pending ++ l.reversed) := by
        rw [← line, Line.add, Line.add, List.reverse_reverse]
      -- It is enough to say what is written after the escape.
      suffices after : ∃ out, Escaped indent rest out ∧
          (writeEscaped indent
            (if (inner && decide (bestWidth + 1 < m.column)) = true then
              foldEscaped indent m rest.head? else m) [] false rest).reversed =
            out.reverse ++ m.reversed by
        obtain ⟨out, later, reversed⟩ := after
        refine ⟨escaped c ++ out, .escape hidden later, ?_⟩
        rw [reversed, before, List.reverse_append, List.append_assoc]
      split
      -- A blank is escaped together with the fold before it, and the induction goes on after it.
      · by_cases blank : rest.head? = some ' '
        · obtain ⟨later, rfl⟩ := List.head?_eq_some_iff.1 blank
          rw [List.head?_cons,
            writeEscaped_blank (Nat.le_trans (column_foldEscaped indent m (some ' ')) narrow)]
          obtain ⟨out, later, reversed⟩ := escaped_writeEscaped narrow
            (foldEscaped indent m (some ' ')) [' '] false later
          exact escaped_of_foldEscaped (by decide) later reversed
        · obtain ⟨out, later, reversed⟩ := escaped_writeEscaped narrow
            (foldEscaped indent m rest.head?) [] false rest
          refine ⟨_, .fold later fun head => ?_, ?_⟩
          · rcases later.head_eq head with backslash | ⟨-, same⟩
            · exact absurd backslash (by decide)
            · exact blank same
          · rw [reversed, reversed_foldEscaped, if_neg blank]
            simp
      · exact escaped_writeEscaped narrow m [] false rest
    | false =>
      rw [if_neg Bool.false_ne_true]
      split
      · obtain ⟨out, later, reversed⟩ := escaped_writeEscaped narrow
          (foldEscaped indent (l.add pending.reverse) (some c)) [c] false rest
        have before : (l.add pending.reverse).reversed = pending ++ l.reversed := by
          rw [Line.add, List.reverse_reverse]
        rw [← before]
        exact escaped_of_foldEscaped hidden later reversed
      · obtain ⟨out, later, reversed⟩ := escaped_writeEscaped narrow l (c :: pending) false rest
        refine ⟨c :: out, .plain hidden later, ?_⟩
        rw [reversed, List.reverse_cons, List.append_assoc]
        rfl
  termination_by cs => cs.length

/-! ## Tidy texts -/

/-- Visible ASCII characters, blanks and line breaks. -/
def isTidyChar (c : Char) : Bool := c = '\n' || (' ' ≤ c && c ≤ '~')

/-- A text of nothing but these. -/
def IsTidy (cs : List Char) : Prop := ∀ c ∈ cs, isTidyChar c = true

instance (cs : List Char) : Decidable (IsTidy cs) := List.decidableBAll _ cs

theorem isTidy_nil : IsTidy [] := fun _ mem => absurd mem List.not_mem_nil

theorem isTidy_cons {c : Char} {cs : List Char} :
    IsTidy (c :: cs) ↔ isTidyChar c = true ∧ IsTidy cs := List.forall_mem_cons

theorem isTidy_append {cs ds : List Char} : IsTidy (cs ++ ds) ↔ IsTidy cs ∧ IsTidy ds :=
  List.forall_mem_append

theorem isTidy_replicate {c : Char} (tidy : isTidyChar c = true) (n : Nat) :
    IsTidy (List.replicate n c) := fun d mem => by rw [List.eq_of_mem_replicate mem, tidy]

theorem isTidyChar_of_between {a b c : Char} (low : ' ' ≤ a) (high : b ≤ '~')
    (between : a ≤ c ∧ c ≤ b) : isTidyChar c = true := by
  simp [isTidyChar, Char.le_trans low between.1, Char.le_trans between.2 high]

theorem isTidyChar_of_hexDigit {c : Char} (digit : (Text.hexDigitValue? c).isSome = true) :
    isTidyChar c = true := by
  unfold Text.hexDigitValue? at digit
  split at digit
  · rename_i lower
    exact isTidyChar_of_between (by decide) (by decide) lower
  · split at digit
    · rename_i upper
      exact isTidyChar_of_between (by decide) (by decide) upper
    · unfold Text.asciiDigitValue? at digit
      split at digit
      · rename_i decimal
        exact isTidyChar_of_between (by decide) (by decide) decimal
      · cases digit

theorem escapeLetters_tidy : ∀ e ∈ escapeLetters, isTidyChar e.2 = true := by decide

theorem isTidy_escaped (c : Char) : IsTidy (escaped c) := by
  have digits : ∀ width, IsTidy (upperHex width c.toNat) := fun width d mem =>
    isTidyChar_of_hexDigit ((hexNumber_upperHex width c.toNat).2 d mem)
  unfold escaped
  split
  · rename_i letter found
    have tidy := escapeLetters_tidy _ (Dictionary.mem_of_get? found)
    exact isTidy_cons.2 ⟨by decide, isTidy_cons.2 ⟨tidy, isTidy_nil⟩⟩
  · split
    · exact isTidy_cons.2 ⟨by decide, isTidy_cons.2 ⟨by decide, digits 2⟩⟩
    · split
      · exact isTidy_cons.2 ⟨by decide, isTidy_cons.2 ⟨by decide, digits 4⟩⟩
      · exact isTidy_cons.2 ⟨by decide, isTidy_cons.2 ⟨by decide, digits 8⟩⟩

/-- Nothing else is written. -/
theorem Escaped.isTidy {indent : Nat} {cs out : List Char} (h : Escaped indent cs out) :
    IsTidy out := by
  induction h with
  | nil => exact isTidy_nil
  | @plain c cs out visible later ih =>
    have tidy : isTidyChar c = true := by
      simp only [needsEscape, Bool.or_eq_false_iff, Bool.not_eq_false'] at visible
      rw [isTidyChar, visible.2, Bool.or_true]
    exact isTidy_cons.2 ⟨tidy, ih⟩
  | escape hidden later ih => exact isTidy_append.2 ⟨isTidy_escaped _, ih⟩
  | blank later ih => exact isTidy_cons.2 ⟨by decide, isTidy_cons.2 ⟨by decide, ih⟩⟩
  | fold later settled ih =>
    have blanks := isTidy_replicate (c := ' ') (by decide) indent
    exact isTidy_cons.2 ⟨by decide, isTidy_cons.2 ⟨by decide, isTidy_append.2 ⟨blanks, ih⟩⟩⟩

end ModelFormula.Document
