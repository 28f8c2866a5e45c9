import ModelFormula.Dictionary
import ModelFormula.Document.Scalar

/-!
# Writing scalars

A text is written without quotes where that reads back as the same text, else in single quotes, and
in double quotes where it holds characters that need an escape.  Lines are folded at a blank once
they pass the best width.

* `Style.ofText` — how a text is written.
* `Style.write` — the text as it is written after a key.
-/

set_option autoImplicit false

namespace ModelFormula.Document

inductive Style where
  | plain
  | single
  | double
  deriving DecidableEq, Repr

namespace Style

/-- Lines that are longer than this are folded. -/
def bestWidth : Nat := 80

/-! ## The choice of a style -/

/-- What decides how a text can be written. -/
structure Traits where
  /-- A mark that would not read as text outside of quotes. -/
  marks : Bool := false
  lines : Bool := false
  /-- A character that needs an escape. -/
  special : Bool := false
  /-- A blank or a line break at one of the ends. -/
  openEnds : Bool := false
  /-- A blank after a line break. -/
  breakBlank : Bool := false
  /-- A line break after a blank. -/
  blankBreak : Bool := false

def isSpace (c : Char) : Bool :=
  c = '\x00' || c = ' ' || c = '\t' || c = '\r' || c = '\n' || c = '\u0085' || c = '\u2028' ||
    c = '\u2029'

def isLineBreak (c : Char) : Bool :=
  c = '\n' || c = '\u0085' || c = '\u2028' || c = '\u2029'

/-- Characters that need an escape. -/
def isSpecial (c : Char) : Bool := c ≠ '\n' && !(' ' ≤ c && c ≤ '~')

/-- Marks that no text without quotes starts with. -/
def firstMarks : List Char :=
  ['#', ',', '[', ']', '\x7b', '\x7d', '&', '*', '!', '|', '>', '\'', '"', '%', '@', '\x60']

/-- Whether a character is a mark, from the one before it and what follows. -/
def isMarkAt (previous : Option Char) (c : Char) (rest : List Char) : Bool :=
  let spaceAfter := (rest.head?.map isSpace).getD true
  match previous with
  | none => firstMarks.contains c || ((c = '?' || c = ':' || c = '-') && spaceAfter)
  | some p => (c = ':' && spaceAfter) || (c = '#' && isSpace p)

/-- The traits of what follows a character. -/
def traitsFrom (previous : Option Char) : List Char → Traits
  | [] => {}
  | c :: rest =>
    let t := traitsFrom (some c) rest
    let atEnds := previous.isNone || rest.isEmpty
    { marks := t.marks || isMarkAt previous c rest
      lines := t.lines || isLineBreak c
      special := t.special || isSpecial c
      openEnds := t.openEnds || (atEnds && (c = ' ' || isLineBreak c))
      breakBlank := t.breakBlank || ((previous.map isLineBreak).getD false && c = ' ')
      blankBreak := t.blankBreak || (previous = some ' ' && isLineBreak c) }

def traits (cs : List Char) : Traits :=
  let t := traitsFrom none cs
  { t with marks := t.marks || "---".toList.isPrefixOf cs || "...".toList.isPrefixOf cs }

/-- How a text is written. -/
def ofText (s : String) : Style :=
  let t := traits s.toList
  if t.special || t.blankBreak then .double
  else if t.breakBlank then .double
  else if Scalar.isText s && !t.marks && !t.lines && !t.openEnds then .plain
  else .single

/-! ## Writing -/

/-- What has been written, last character first, and the column reached. -/
structure Line where
  reversed : List Char := []
  column : Nat

namespace Line

def add (l : Line) (cs : List Char) : Line := ⟨cs.reverse ++ l.reversed, l.column + cs.length⟩

/-- Goes to a new line, after so many empty ones. -/
def fold (l : Line) (indent : Nat) (empty : Nat) : Line :=
  ⟨List.replicate indent ' ' ++ List.replicate (empty + 1) '\n' ++ l.reversed, indent⟩

def text (l : Line) : String := String.ofList l.reversed.reverse

end Line

/-- Splits a text into runs of blanks, runs of line breaks, and the rest. -/
def runs : List Char → List (List Char)
  | [] => []
  | c :: cs =>
    match runs cs with
    | (d :: run) :: rest =>
      if (c == ' ') == (d == ' ') && (c == '\n') == (d == '\n') then (c :: d :: run) :: rest
      else [c] :: (d :: run) :: rest
    | rest => [c] :: rest

/-- A quote is written twice. -/
def doubleQuotes (cs : List Char) : List Char :=
  cs.flatMap fun c => if c = '\'' then ['\'', '\''] else [c]

/-- Writes the runs of a text; a single blank between others may become the end of a line. -/
def writeRuns (indent : Nat) (quoted : Bool) (l : Line) (first : Bool) :
    List (List Char) → Line
  | [] => l
  | run :: rest =>
    let inner := !quoted || (!first && !rest.isEmpty)
    let l :=
      if run = [' '] then if bestWidth < l.column && inner then l.fold indent 0 else l.add run
      else if run.head? = some '\n' then l.fold indent run.length
      else l.add (if quoted then doubleQuotes run else run)
    writeRuns indent quoted l false rest

/-- The letters of the escapes that have one. -/
def escapeLetters : Dictionary Char Char :=
  [('\x00', '0'), ('\x07', 'a'), ('\x08', 'b'), ('\t', 't'), ('\n', 'n'), ('\x0b', 'v'),
    ('\x0c', 'f'), ('\r', 'r'), ('\x1b', 'e'), ('"', '"'), ('\\', '\\'), ('\u0085', 'N'),
    ('\u00a0', '_'), ('\u2028', 'L'), ('\u2029', 'P')]

def upperHex (width n : Nat) : List Char :=
  let digits := (Nat.toDigits 16 n).map Char.toUpper
  List.replicate (width - digits.length) '0' ++ digits

/-- A character as it is escaped. -/
def escaped (c : Char) : List Char :=
  match escapeLetters.get? c with
  | some letter => ['\\', letter]
  | none =>
    if c.toNat ≤ 0xFF then '\\' :: 'x' :: upperHex 2 c.toNat
    else if c.toNat ≤ 0xFFFF then '\\' :: 'u' :: upperHex 4 c.toNat
    else '\\' :: 'U' :: upperHex 8 c.toNat

def needsEscape (c : Char) : Bool := c = '"' || c = '\\' || !(' ' ≤ c && c ≤ '~')

/-- Folds inside double quotes: the line ends with a backslash, and so does the next one begin if
its first character is a blank. -/
def foldEscaped (indent : Nat) (l : Line) (next : Option Char) : Line :=
  let l := (l.add ['\\']).fold indent 0
  if next = some ' ' then l.add ['\\'] else l

/-- Writes a text inside double quotes; `pending` are the characters, last one first, since the last
escape or fold, which are not written yet. -/
def writeEscaped (indent : Nat) (l : Line) (pending : List Char) (first : Bool) :
    List Char → Line
  | [] => l.add pending.reverse
  | c :: rest =>
    let inner := !first && !rest.isEmpty
    if needsEscape c then
      let l := (l.add pending.reverse).add (escaped c)
      let l := if inner && bestWidth + 1 < l.column then foldEscaped indent l rest.head? else l
      writeEscaped indent l [] false rest
    else if inner && (c = ' ' || pending.isEmpty) && bestWidth < l.column + pending.length then
      writeEscaped indent (foldEscaped indent (l.add pending.reverse) (some c)) [c] false rest
    else writeEscaped indent l (c :: pending) false rest

/-- A text as it is written from a column on, with a blank in front; further lines are indented. -/
def write (column indent : Nat) (s : String) : String :=
  let l : Line := ⟨[], column⟩
  match ofText s with
  | .plain => (writeRuns indent false (l.add [' ']) true (runs s.toList)).text
  | .single =>
    ((writeRuns indent true (l.add [' ', '\'']) true (runs s.toList)).add ['\'']).text
  | .double => ((writeEscaped indent (l.add [' ', '"']) [] true s.toList).add ['"']).text

end Style

end ModelFormula.Document
