import Mathlib.Data.List.Sort
import ModelFormula.Proofs.Document.Scalars

/-!
# Documents read back

A dictionary is written in blocks, entry by entry; what is written reads as a mapping with the same
entries, sorted by name.

* `IsStorable` — values that can be written: single ones, and dictionaries of such values whose
  names read as texts.
* `ofPlain` — the document that such a value is written as.
* `ReadsAfterKey`, `readsAfterKey_of_isStorable` — what is written after a key reads back.
* `ofText_write` — so do whole documents.
-/

set_option autoImplicit false

namespace ModelFormula.Document

open Style (bestWidth)

/-! ## What is written -/

/-- A character of a name. -/
def isKeyChar (c : Char) : Bool := c.isLower || c = '_'

/-- A name in small letters that means nothing else. -/
def isKeyName (name : String) : Bool :=
  !name.toList.isEmpty && name.toList.all isKeyChar && decide (Scalar.resolve name = .text name)

/-- Values that can be written after a key that is so many levels deep. -/
inductive IsStorable : Nat → Plain → Prop
  | single {depth : Nat} {v : Plain} (single : IsSingle v) (narrow : 2 * depth + 3 ≤ bestWidth) :
      IsStorable depth v
  | dict {depth : Nat} {entries : List (String × Plain)} (some_entry : entries ≠ [])
      (keys : ∀ e ∈ entries, isKeyName e.1 = true)
      (values : ∀ e ∈ entries, IsStorable (depth + 1) e.2) : IsStorable depth (.dict entries)

/-- Entries sorted by their names. -/
def sorted {α : Type} (entries : List (String × α)) : List (String × α) :=
  entries.insertionSort fun e f => e.1 ≤ f.1

mutual
/-- The document that a value is written as. -/
def ofPlain : Plain → Document
  | .dict entries => .mapping ((sorted (ofEntries entries)).map fun e => (.scalar (.text e.1), e.2))
  | v => .scalar v
def ofEntries : List (String × Plain) → List (String × Document)
  | [] => []
  | (name, v) :: rest => (name, ofPlain v) :: ofEntries rest
end

/-- An entry as it is written. -/
def entryChars (depth : Nat) (e : String × Plain) : List Char :=
  List.replicate (2 * depth) ' ' ++ (e.1.toList ++ ':' :: (writeAfterKey depth e.1 e.2).toList)

theorem sorted_map {α β : Type} (f : String × α → β) (entries : List (String × α)) :
    sorted (entries.map fun e => (e.1, f e)) = (sorted entries).map fun e => (e.1, f e) := by
  have same := List.map_insertionSort (fun e g : String × α => e.1 ≤ g.1)
    (fun e g : String × β => e.1 ≤ g.1) (fun e => (e.1, f e)) entries fun _ _ _ _ => Iff.rfl
  exact same.symm

theorem ofEntries_eq (entries : List (String × Plain)) :
    ofEntries entries = entries.map fun e => (e.1, ofPlain e.2) := by
  induction entries with
  | nil => rfl
  | cons e entries ih => rw [ofEntries, ih, List.map_cons]

theorem ofPlain_dict (entries : List (String × Plain)) :
    ofPlain (.dict entries) =
      .mapping ((sorted entries).map fun e => (.scalar (.text e.1), ofPlain e.2)) := by
  rw [ofPlain, ofEntries_eq, sorted_map, List.map_map]
  rfl

theorem insertByName_eq (name text : String) (entries : List (String × String)) :
    insertByName name text entries =
      entries.orderedInsert (fun e f => e.1 ≤ f.1) (name, text) := by
  induction entries with
  | nil => rfl
  | cons e entries ih => rw [insertByName, List.orderedInsert, ih]

theorem writeEntries_eq (depth : Nat) (entries : List (String × Plain)) :
    writeEntries depth entries =
      (sorted entries).map fun e => (e.1, String.ofList (entryChars depth e)) := by
  rw [← sorted_map]
  induction entries with
  | nil => rfl
  | cons e entries ih =>
    have text : String.ofList (List.replicate (2 * depth) ' ') ++ e.1 ++ ":" ++
        writeAfterKey depth e.1 e.2 = String.ofList (entryChars depth e) := by
      rw [← String.toList_inj]
      simp [entryChars]
    rw [writeEntries, ih, insertByName_eq, text]
    rfl

/-- What is written of entries are their texts in the order of their names. -/
theorem toList_join_writeEntries (depth : Nat) (entries : List (String × Plain)) :
    (String.join ((writeEntries depth entries).map (·.2))).toList =
      (sorted entries).flatMap (entryChars depth) := by
  rw [writeEntries_eq, List.map_map, String.toList_join, List.flatMap_map]
  simp

/-! ## Keys -/

/-- What follows an entry: another key, or nothing. -/
def IsNext (cs : List Char) : Prop := ∀ c ∈ cs.head?, isKeyChar c = true

theorem keyChar_ne {c d : Char} (key : isKeyChar c = true) (other : isKeyChar d = false) :
    c ≠ d := by
  rintro rfl
  rw [key] at other
  cases other

theorem settled_of_isNext {cs : List Char} (next : IsNext cs) : Settled cs := fun c head =>
  ⟨keyChar_ne (next c head) (by decide), keyChar_ne (next c head) (by decide),
    keyChar_ne (next c head) (by decide)⟩

/-- The characters of a key that can be written. -/
theorem exists_keyChars {name : String} (key : isKeyName name = true) :
    ∃ c cs, name.toList = c :: cs ∧ (∀ d ∈ c :: cs, isKeyChar d = true) ∧
      Scalar.resolve name = .text name := by
  simp only [isKeyName, Bool.and_eq_true, decide_eq_true_eq, Bool.not_eq_true'] at key
  obtain ⟨⟨some_char, all⟩, meaning⟩ := key
  obtain ⟨c, cs, chars⟩ := List.exists_cons_of_ne_nil (List.isEmpty_eq_false_iff.1 some_char)
  exact ⟨c, cs, chars, fun d mem => List.all_eq_true.1 all d (chars ▸ mem), meaning⟩

theorem plainText_key {ds text : List Char} (keys : ∀ d ∈ ds, isKeyChar d = true)
    (ends : endsWord text = true) {t : Folded} (plain : t.EndsIn .word) (column : Nat)
    {left : List Char} (here : ds = [] → left = ':' :: text) :
    plainText ⟨false, false, 0⟩ t column left (ds ++ ':' :: text) =
      (String.ofList (t.flushed.reverse ++ ds), ':' :: text) := by
  induction ds generalizing t column left with
  | nil =>
    rw [List.nil_append, plainText, if_neg (by decide), if_neg (by decide),
      if_pos (by simp [endsPlain, ends]), here rfl, Folded.flushed_word plain, List.append_nil]
    rfl
  | cons d ds ih =>
    obtain ⟨key, keys⟩ := List.forall_mem_cons.1 keys
    have differ : ∀ {c : Char}, isKeyChar c = false → d ≠ c := keyChar_ne key
    have goes_on : ¬ (decide (d = '\t') || endsPlain false d (ds ++ ':' :: text) ||
        (decide (d = '#') && (!t.blanks.isEmpty || t.breaks.isSome)) ||
          (t.breaks.isSome && !false && decide (column < 0))) = true := by
      have no_tab : d ≠ '\t' := differ (by decide)
      have no_colon : d ≠ ':' := differ (by decide)
      have no_comment : d ≠ '#' := differ (by decide)
      simp [endsPlain, no_tab, no_colon, no_comment]
    rw [List.cons_append, plainText, if_neg (differ (by decide)), if_neg (differ (by decide)),
      if_neg goes_on, ih keys (t := t.push d) ⟨rfl, rfl⟩ (column + 1) fun none => by rw [none]; rfl,
      Folded.flushed_push, List.reverse_cons, List.append_assoc]
    rfl

/-- A key is no quoted text, and can start without quotes. -/
theorem starts_of_isKeyChar {c : Char} (key : isKeyChar c = true) (cs : List Char) :
    quoted? (c :: cs) = none ∧ startsPlain false (c :: cs) = true := by
  constructor
  · have no_single : c ≠ '\'' := keyChar_ne key (by decide)
    have no_double : c ≠ '"' := keyChar_ne key (by decide)
    simp [quoted?, no_single, no_double]
  · have none_is_key : indicators.any isKeyChar = false := by decide
    have no_indicator : indicators.contains c = false := by
      by_contra indicator
      rw [Bool.not_eq_false, List.contains_iff_mem] at indicator
      exact List.any_eq_false.1 none_is_key c indicator key
    rw [startsPlain, no_indicator]
    rfl

/-- **A key is read up to its colon.** -/
theorem key?_name {name : String} (key : isKeyName name = true) {text : List Char}
    (ends : endsWord text = true) (column : Nat) :
    key? ⟨name.toList ++ ':' :: text, column⟩ =
      some (.scalar (.text name), ⟨text, column + (name.toList.length + 1)⟩) := by
  obtain ⟨c, cs, chars, keys, meaning⟩ := exists_keyChars key
  have read : plainText ⟨false, false, 0⟩ {} column (name.toList ++ ':' :: text)
      (name.toList ++ ':' :: text) = (name, ':' :: text) := by
    rw [plainText_key (chars ▸ keys) ends ⟨rfl, rfl⟩ column fun none => by rw [none]; rfl]
    simp [Folded.flushed]
  have starts := starts_of_isKeyChar (keys c List.mem_cons_self) (cs ++ ':' :: text)
  rw [← List.cons_append, ← chars] at starts
  have no_break : '\n' ∉ name.toList ++ [':'] := by
    intro mem
    rcases List.mem_append.1 mem with mem | mem
    · exact keyChar_ne (keys _ (chars ▸ mem)) (by decide) rfl
    · exact absurd mem (by decide)
  have moved := Cursor.moveTo_line no_break text column
  rw [List.append_assoc, List.singleton_append, List.length_append, List.length_singleton] at moved
  have after : afterColon? ⟨name.toList ++ ':' :: text, column⟩ (':' :: text) =
      some ⟨text, column + (name.toList.length + 1)⟩ := by
    rw [afterColon?, List.dropWhile_cons_of_neg (by decide)]
    simp [ends, moved]
  simp [key?, starts, read, after, plainNode, meaning]

/-! ## Blocks -/

theorem no_marker_of_isNext {cs : List Char} (next : IsNext cs) : isMarker cs = false := by
  cases cs with
  | nil => rfl
  | cons c cs =>
    have key := next c rfl
    exact isMarker_of_head (keyChar_ne key (by decide)) (keyChar_ne key (by decide)) cs

theorem no_dash_of_isNext {cs : List Char} (next : IsNext cs) (column : Nat) :
    (Cursor.mk cs column).atDash = false := by
  by_contra dash
  simp only [Cursor.atDash, Bool.not_eq_false, Bool.and_eq_true, decide_eq_true_eq] at dash
  exact keyChar_ne (next '-' dash.1) (by decide) rfl

/-- A text that reads as the value of a key in a column, to where the next entry starts. -/
structure ReadsAfterKey (column : Nat) (text : List Char) (d : Document) : Prop where
  tidy : IsTidy text
  ends : ∀ more, endsWord (text ++ more) = true
  reads : ∀ (fuel start k : Nat) (rest : List Char), text.length < fuel → k ≤ column → IsNext rest →
    ∃ c, blockValue? fuel column ⟨text ++ (List.replicate k ' ' ++ rest), start⟩ = some (d, c) ∧
      c.skip = ⟨rest, k⟩

/-- **A single value reads back after its key.** -/
theorem readsAfterKey_single {column indent : Nat} (inside : column + 1 ≤ indent) {body : List Char}
    {v : Plain} (inline : IsInline indent body v) :
    ReadsAfterKey column (' ' :: (body ++ ['\n'])) (.scalar v) where
  tidy := isTidy_cons.2 ⟨by decide, isTidy_append.2 ⟨inline.tidy, by decide⟩⟩
  ends _ := rfl
  reads fuel start k rest enough outer next := by
    obtain ⟨fuel, rfl⟩ : ∃ n, fuel = n + 1 := ⟨fuel - 1, by omega⟩
    obtain ⟨some_char, settled⟩ := inline.starts
    obtain ⟨b, body', rfl⟩ := List.exists_cons_of_ne_nil some_char
    obtain ⟨c, read, left⟩ := inline.reads fuel (column + 1) (start + 1) k rest inside (by omega)
      (settled_of_isNext next)
    have whole : ' ' :: (b :: body' ++ ['\n']) ++ (List.replicate k ' ' ++ rest) =
        List.replicate 1 ' ' ++ (b :: body' ++ nextLine k rest) := by
      simp [nextLine]
    have settled_line : Settled (b :: body' ++ nextLine k rest) := fun d head => settled d head
    have skipped := Cursor.skip_blanks 1 settled_line start
    have at_end : Cursor.atEnd ⟨b :: body' ++ nextLine k rest, start + 1⟩ = false := by
      simp [Cursor.atEnd]
    have same_line := Cursor.sameLine_append (List.replicate 1 ' ') (b :: body' ++ nextLine k rest)
      start (start + 1)
    refine ⟨c, ?_, ?_⟩
    · rw [whole, blockValue?, skipped]
      simp only [at_end, same_line, Bool.false_eq_true, if_false]
      rw [if_pos (by decide)]
      exact read
    · obtain ⟨chars, at_column⟩ := c
      obtain rfl : chars = nextLine k rest := left
      exact Cursor.skip_nextLine k (settled_of_isNext next) at_column

/-- What follows the first entry: the others, and what is left. -/
def followed (depth k : Nat) (entries : List (String × Plain)) (rest : List Char) : List Char :=
  entries.flatMap (entryChars depth) ++ (List.replicate k ' ' ++ rest)

theorem followed_cons (depth k : Nat) (e : String × Plain) (entries : List (String × Plain))
    (rest : List Char) :
    followed depth k (e :: entries) rest = List.replicate (2 * depth) ' ' ++
      (e.1.toList ++ ':' :: ((writeAfterKey depth e.1 e.2).toList ++
        followed depth k entries rest)) := by
  simp [followed, entryChars]

/-- A key starts a next line. -/
theorem isNext_key {name : String} (key : isKeyName name = true) (text : List Char) :
    IsNext (name.toList ++ text) := by
  obtain ⟨c, cs, chars, keys, -⟩ := exists_keyChars key
  rw [chars]
  rintro d ⟨⟩
  exact keys c List.mem_cons_self

theorem atEnd_of_isNext {cs : List Char} (next : IsNext cs) (some_char : cs ≠ []) (column : Nat) :
    (Cursor.mk cs column).atEnd = false := by
  simp [Cursor.atEnd, no_marker_of_isNext next, some_char]

theorem length_entryChars (depth : Nat) {e : String × Plain} (key : isKeyName e.1 = true) :
    (writeAfterKey depth e.1 e.2).toList.length + 2 ≤ (entryChars depth e).length := by
  obtain ⟨c, cs, chars, -⟩ := exists_keyChars key
  simp only [entryChars, chars, List.length_append, List.length_cons, List.length_replicate]
  omega

/-- One entry of a mapping is read, up to where the next line starts. -/
theorem blockMapping?_entry {depth k : Nat} {rest : List Char} (next : IsNext rest)
    (outer : k ≤ 2 * depth) {e : String × Plain} (key : isKeyName e.1 = true)
    (value : ReadsAfterKey (2 * depth) (writeAfterKey depth e.1 e.2).toList (ofPlain e.2))
    (fuel : Nat) (enough : (writeAfterKey depth e.1 e.2).toList.length < fuel)
    (found : List (Document × Document)) :
    blockMapping? (fuel + 1) (2 * depth) found
        ⟨e.1.toList ++ ':' :: ((writeAfterKey depth e.1 e.2).toList ++
          (List.replicate k ' ' ++ rest)), 2 * depth⟩ =
      if (Cursor.mk rest k).atEnd then
        some (.mapping ((.scalar (.text e.1), ofPlain e.2) :: found).reverse, ⟨rest, k⟩)
      else if k = 2 * depth then
        blockMapping? fuel (2 * depth) ((.scalar (.text e.1), ofPlain e.2) :: found) ⟨rest, k⟩
      else if k < 2 * depth then
        some (.mapping ((.scalar (.text e.1), ofPlain e.2) :: found).reverse, ⟨rest, k⟩)
      else none := by
  obtain ⟨c, read, skipped⟩ := value.reads fuel (2 * depth + (e.1.toList.length + 1)) k rest enough
    outer next
  rw [blockMapping?, key?_name key (value.ends _)]
  simp only [Option.bind_eq_bind, Option.bind_some, read, skipped]

/-- **The entries of a mapping are read one by one**, up to a line that starts further out. -/
theorem blockMapping?_entries {depth k : Nat} {rest : List Char} (next : IsNext rest)
    (outer : k ≤ 2 * depth ∧ (rest = [] ∨ k < 2 * depth)) {first : String × Plain}
    {entries : List (String × Plain)} (keys : ∀ e ∈ first :: entries, isKeyName e.1 = true)
    (values : ∀ e ∈ first :: entries,
      ReadsAfterKey (2 * depth) (writeAfterKey depth e.1 e.2).toList (ofPlain e.2))
    {fuel : Nat} (enough : ((first :: entries).flatMap (entryChars depth)).length ≤ fuel)
    (found : List (Document × Document)) :
    blockMapping? fuel (2 * depth) found
        ⟨first.1.toList ++ ':' :: ((writeAfterKey depth first.1 first.2).toList ++
          followed depth k entries rest), 2 * depth⟩ =
      some (.mapping (found.reverse ++
        (first :: entries).map fun e => (.scalar (.text e.1), ofPlain e.2)), ⟨rest, k⟩) := by
  induction entries generalizing first fuel found with
  | nil =>
    have key := keys first List.mem_cons_self
    have long := length_entryChars depth key
    rw [List.flatMap_singleton] at enough
    obtain ⟨fuel, rfl⟩ : ∃ n, fuel = n + 1 := ⟨fuel - 1, by omega⟩
    have read := blockMapping?_entry next outer.1 key (values first List.mem_cons_self) fuel
      (by omega) found
    rw [followed, List.flatMap_nil, List.nil_append, read]
    cases rest with
    | nil =>
      have finished : (Cursor.mk [] k).atEnd = true := rfl
      rw [if_pos finished]
      simp
    | cons c rest =>
      have left : k < 2 * depth := outer.2.resolve_left (List.cons_ne_nil _ _)
      rw [atEnd_of_isNext next (List.cons_ne_nil _ _), if_neg Bool.false_ne_true,
        if_neg (by omega), if_pos left]
      simp
  | cons e entries ih =>
    have key := keys first List.mem_cons_self
    have long := length_entryChars depth key
    rw [List.flatMap_cons, List.length_append] at enough
    obtain ⟨fuel, rfl⟩ : ∃ n, fuel = n + 1 := ⟨fuel - 1, by omega⟩
    have next_key : IsNext (e.1.toList ++ ':' :: ((writeAfterKey depth e.1 e.2).toList ++
        followed depth k entries rest)) :=
      isNext_key (keys e (List.mem_cons_of_mem _ List.mem_cons_self)) _
    have read := blockMapping?_entry next_key (Nat.le_refl _) key (values first List.mem_cons_self)
      fuel (by omega) found
    rw [followed_cons, read, atEnd_of_isNext next_key (by simp), if_neg Bool.false_ne_true,
      if_pos rfl, ih (fun e mem => keys e (List.mem_cons_of_mem _ mem))
        (fun e mem => values e (List.mem_cons_of_mem _ mem)) (by omega)]
    simp

/-- Entries that can be written and the texts of which read back. -/
structure ReadBack (depth : Nat) (entries : List (String × Plain)) : Prop where
  some_entry : entries ≠ []
  keys : ∀ e ∈ entries, isKeyName e.1 = true
  values : ∀ e ∈ entries,
    ReadsAfterKey (2 * depth) (writeAfterKey depth e.1 e.2).toList (ofPlain e.2)

/-- What is written of entries. -/
def blockChars (depth : Nat) (entries : List (String × Plain)) : List Char :=
  (sorted entries).flatMap (entryChars depth)

theorem isTidyChar_of_isKeyChar {c : Char} (key : isKeyChar c = true) : isTidyChar c = true := by
  simp only [isKeyChar, Bool.or_eq_true, decide_eq_true_eq] at key
  rcases key with small | rfl
  · have bounds : (decide ('a' ≤ c) && decide (c ≤ 'z')) = true := small
    rw [Bool.and_eq_true, decide_eq_true_eq, decide_eq_true_eq] at bounds
    exact isTidyChar_of_between (by decide) (by decide) bounds
  · decide

theorem mem_sorted {entries : List (String × Plain)} {e : String × Plain} :
    e ∈ sorted entries ↔ e ∈ entries := (List.perm_insertionSort _ _).mem_iff

namespace ReadBack

variable {depth : Nat} {entries : List (String × Plain)}

theorem isTidy (h : ReadBack depth entries) : IsTidy (blockChars depth entries) := by
  intro c mem
  obtain ⟨e, listed, mem⟩ := List.mem_flatMap.1 mem
  obtain ⟨d, ds, chars, keys, -⟩ := exists_keyChars (h.keys e (mem_sorted.1 listed))
  have tidy : IsTidy (entryChars depth e) :=
    isTidy_append.2 ⟨isTidy_replicate (by decide) _, isTidy_append.2
      ⟨fun x mem => isTidyChar_of_isKeyChar (keys x (chars ▸ mem)),
        isTidy_cons.2 ⟨by decide, (h.values e (mem_sorted.1 listed)).tidy⟩⟩⟩
  exact tidy c mem

/-- **A block is read as a mapping**, up to a line that starts further out. -/
theorem read (h : ReadBack depth entries) {k : Nat} {rest : List Char} (next : IsNext rest)
    (outer : k ≤ 2 * depth ∧ (rest = [] ∨ k < 2 * depth)) (least fuel : Nat)
    (enough : (blockChars depth entries).length ≤ fuel) :
    ∃ text, blockChars depth entries ++ (List.replicate k ' ' ++ rest) =
        List.replicate (2 * depth) ' ' ++ text ∧ text ≠ [] ∧ IsNext text ∧
      blockNode? (fuel + 1) least ⟨text, 2 * depth⟩ =
        some (ofPlain (.dict entries), ⟨rest, k⟩) := by
  obtain ⟨first, others, same⟩ : ∃ first others, sorted entries = first :: others := by
    obtain ⟨e, more, rfl⟩ := List.exists_cons_of_ne_nil h.some_entry
    exact List.exists_cons_of_ne_nil
      (List.ne_nil_of_mem (mem_sorted.2 (List.mem_cons_self (l := more))))
  have listed : ∀ e ∈ first :: others, e ∈ entries := fun e mem => mem_sorted.1 (same ▸ mem)
  have keys : ∀ e ∈ first :: others, isKeyName e.1 = true := fun e mem => h.keys e (listed e mem)
  rw [blockChars, same] at enough ⊢
  have next_key : IsNext (first.1.toList ++ ':' :: ((writeAfterKey depth first.1 first.2).toList ++
      followed depth k others rest)) := isNext_key (keys first List.mem_cons_self) _
  refine ⟨_, followed_cons depth k first others rest, by simp, next_key, ?_⟩
  have key := key?_name (keys first List.mem_cons_self)
    ((h.values first (listed first List.mem_cons_self)).ends (followed depth k others rest))
    (2 * depth)
  rw [blockNode?, no_dash_of_isNext next_key, if_neg Bool.false_ne_true, key]
  dsimp only
  rw [blockMapping?_entries next outer keys (fun e mem => h.values e (listed e mem)) enough,
    ofPlain_dict, same]
  rfl

end ReadBack

/-- **A dictionary reads back after its key.** -/
theorem readsAfterKey_block {depth : Nat} {entries : List (String × Plain)}
    (h : ReadBack (depth + 1) entries) :
    ReadsAfterKey (2 * depth) ('\n' :: blockChars (depth + 1) entries)
      (ofPlain (.dict entries)) where
  tidy := isTidy_cons.2 ⟨by decide, h.isTidy⟩
  ends _ := rfl
  reads fuel start k rest enough outer next := by
    rw [List.length_cons] at enough
    obtain ⟨fuel, rfl⟩ : ∃ n, fuel = n + 1 + 1 := ⟨fuel - 2, by omega⟩
    obtain ⟨text, whole, some_char, next_text, read⟩ := h.read (k := k) next
      ⟨by omega, .inr (by omega)⟩ (2 * depth + 1) fuel (by omega)
    have chars : '\n' :: blockChars (depth + 1) entries ++ (List.replicate k ' ' ++ rest) =
        '\n' :: List.replicate (2 * (depth + 1)) ' ' ++ text := by
      rw [List.cons_append, whole, List.cons_append]
    have skipped : (Cursor.mk ('\n' :: List.replicate (2 * (depth + 1)) ' ' ++ text) start).skip =
        ⟨text, 2 * (depth + 1)⟩ := Cursor.skip_nextLine _ (settled_of_isNext next_text) start
    have other_line := Cursor.sameLine_append ('\n' :: List.replicate (2 * (depth + 1)) ' ') text
      start (2 * (depth + 1))
    refine ⟨⟨rest, k⟩, ?_, Cursor.skip_settled (settled_of_isNext next) k⟩
    rw [chars, blockValue?, skipped]
    simp only [atEnd_of_isNext next_text some_char, other_line]
    rw [if_neg (by decide), if_neg (by simp), if_pos (by omega), read]

/-- **What is written after a key reads back.** -/
theorem readsAfterKey_of_isStorable {depth : Nat} {v : Plain} (h : IsStorable depth v)
    (name : String) :
    ReadsAfterKey (2 * depth) (writeAfterKey depth name v).toList (ofPlain v) := by
  induction h generalizing name with
  | @single depth v single narrow =>
    have positive : 0 < 2 * depth + 2 := by omega
    obtain ⟨body, written, inline⟩ :=
      isInline_writeValue (2 * depth + name.length + 1) positive narrow single
    have text : writeAfterKey depth name v =
          writeValue (2 * depth + name.length + 1) (2 * depth + 2) v ++ "\n" ∧
        ofPlain v = .scalar v := by
      cases v with
      | dict entries => exact absurd single id
      | _ => exact ⟨by simp [writeAfterKey], by simp [ofPlain]⟩
    rw [text.1, text.2, String.toList_append, written]
    exact readsAfterKey_single (by omega) inline
  | @dict depth entries some_entry keys values ih =>
    have block : ReadBack (depth + 1) entries :=
      ⟨some_entry, keys, fun e mem => ih e mem e.1⟩
    have text : (writeAfterKey depth name (.dict entries)).toList =
        '\n' :: blockChars (depth + 1) entries := by
      obtain ⟨e, more, rfl⟩ := List.exists_cons_of_ne_nil some_entry
      rw [writeAfterKey, String.toList_append, toList_join_writeEntries]
      rfl
    rw [text]
    exact readsAfterKey_block block

/-! ## Whole documents -/

theorem isReadable_of_isTidyChar {c : Char} (tidy : isTidyChar c = true) : isReadable c = true := by
  simp only [isTidyChar, Bool.or_eq_true, Bool.and_eq_true, decide_eq_true_eq] at tidy
  rcases tidy with rfl | ⟨low, high⟩
  · decide
  · have low : 32 ≤ c.toNat := low
    have high : c.toNat ≤ 126 := high
    simp [isReadable, low, high]

section

variable {entries : List (String × Plain)} (some_entry : entries ≠ [])
  (keys : ∀ e ∈ entries, isKeyName e.1 = true) (values : ∀ e ∈ entries, IsStorable 0 e.2)

include some_entry keys values

theorem readBack_of_isStorable : ReadBack 0 entries :=
  ⟨some_entry, keys, fun e mem => readsAfterKey_of_isStorable (values e mem) e.1⟩

/-- Nothing but visible characters, blanks and line breaks is written. -/
theorem isTidy_write : IsTidy (write entries).toList := by
  rw [write, toList_join_writeEntries]
  exact (readBack_of_isStorable some_entry keys values).isTidy

/-- **A document reads back** as a mapping with the entries that were written, sorted by name. -/
theorem ofText_write : ofText (write entries) = .ok (ofPlain (.dict entries)) := by
  have block := readBack_of_isStorable some_entry keys values
  have chars : (write entries).toList = blockChars 0 entries := toList_join_writeEntries 0 entries
  have readable : (blockChars 0 entries).all isReadable = true :=
    List.all_eq_true.2 fun c mem => isReadable_of_isTidyChar (block.isTidy c mem)
  obtain ⟨text, whole, some_char, next, read⟩ := block.read (k := 0) (fun _ head => by cases head)
    ⟨Nat.le_refl 0, .inl rfl⟩ 0 (4 * (blockChars 0 entries).length + 15) (by omega)
  obtain rfl : blockChars 0 entries = text := by simpa using whole
  have skipped := Cursor.skip_settled (settled_of_isNext next) 0
  have finished : isFinished (Cursor.skip ⟨[], 0⟩) = true := by decide
  rw [ofText, chars, skipped]
  simp only [root?, no_marker_of_isNext next, atEnd_of_isNext next some_char, Bool.and_false,
    Bool.false_eq_true, if_false]
  rw [Nat.mul_zero] at read
  simp only [read, readable, finished, Bool.and_true, if_true]

end

end ModelFormula.Document
