import ModelFormula.Dictionary
import ModelFormula.Text.Digit

/-!
# Folded text

Scalars may run over several lines: blanks around a line break do not count, a single break reads
as a blank, and further breaks are kept.

* `Folded` — the text read so far, with the blanks and breaks after it.
* `singleQuoted?`, `doubleQuoted?`, `plainText` — the text of a scalar, and what follows it.
-/

set_option autoImplicit false

namespace ModelFormula.Document

/-- The text read so far, last character first, and the blanks and line breaks that follow. -/
structure Folded where
  reversed : List Char := []
  blanks : List Char := []
  /-- The line breaks after the first one, if there is a first one. -/
  breaks : Option Nat := none

namespace Folded

/-- The text with what the blanks and breaks after it read as. -/
def flushed (t : Folded) : List Char :=
  match t.breaks with
  | none => t.blanks ++ t.reversed
  | some 0 => ' ' :: t.reversed
  | some k => List.replicate k '\n' ++ t.reversed

def push (t : Folded) (c : Char) : Folded := { reversed := c :: t.flushed }

def blank (t : Folded) (c : Char) : Folded :=
  if t.breaks.isSome then t else { t with blanks := c :: t.blanks }

def newline (t : Folded) : Folded :=
  { t with blanks := [], breaks := some (match t.breaks with | none => 0 | some k => k + 1) }

/-- A line break that does not count, with the blanks of the next line to be dropped. -/
def joinLine (t : Folded) : Folded := { reversed := t.flushed, breaks := none }

def text (t : Folded) : String := String.ofList t.flushed.reverse

end Folded

/-- A blank, a line break or the end. -/
def endsWord : List Char → Bool
  | [] => true
  | c :: _ => c = ' ' || c = '\t' || c = '\n'

/-- Whether a line starts with a mark between documents. -/
def isMarker (cs : List Char) : Bool :=
  ("---".toList.isPrefixOf cs || "...".toList.isPrefixOf cs) && endsWord (cs.drop 3)

/-! ## Quoted scalars -/

/-- Reads up to the closing single quote; a quote inside is written twice. -/
def singleQuoted? (t : Folded) : List Char → Option (String × List Char)
  | [] => none
  | '\'' :: '\'' :: cs => singleQuoted? (t.push '\'') cs
  | '\'' :: cs => some (t.text, cs)
  | '\n' :: cs => if isMarker cs then none else singleQuoted? t.newline cs
  | c :: cs => singleQuoted? (if c = ' ' || c = '\t' then t.blank c else t.push c) cs

/-- The characters written with a backslash and one letter. -/
def escapes : Dictionary Char Char :=
  [('0', '\x00'), ('a', '\x07'), ('b', '\x08'), ('t', '\t'), ('\t', '\t'), ('n', '\n'),
    ('v', '\x0b'), ('f', '\x0c'), ('r', '\r'), ('e', '\x1b'), (' ', ' '), ('"', '"'), ('/', '/'),
    ('\\', '\\'), ('N', '\u0085'), ('_', '\u00a0'), ('L', '\u2028'), ('P', '\u2029')]

/-- How many hexadecimal digits follow a backslash and a letter. -/
def codeLength? (c : Char) : Option Nat :=
  if c = 'x' then some 2 else if c = 'u' then some 4 else if c = 'U' then some 8 else none

/-- What is being read inside double quotes. -/
inductive Escape where
  | no
  | started
  /-- So many digits of a code are still to come. -/
  | code (remaining value : Nat)
  /-- The blanks at the start of a line that was joined to the one before. -/
  | joined

/-- Reads up to the closing double quote. -/
def doubleQuoted? (t : Folded) (escape : Escape) : List Char → Option (String × List Char)
  | [] => none
  | c :: cs =>
    match escape with
    | .started =>
      if c = '\n' then doubleQuoted? t.joinLine .joined cs
      else
        match codeLength? c with
        | some n => doubleQuoted? t (.code n 0) cs
        | none =>
          match escapes.get? c with
          | some meant => doubleQuoted? (t.push meant) .no cs
          | none => none
    | .code n value =>
      match Text.hexDigitValue? c with
      | none => none
      | some d =>
        let value := 16 * value + d
        if n ≤ 1 then
          if value.isValidChar then doubleQuoted? (t.push (Char.ofNat value)) .no cs else none
        else doubleQuoted? t (.code (n - 1) value) cs
    | .joined =>
      if c = ' ' ∨ c = '\t' then doubleQuoted? t .joined cs
      else if c = '\n' then doubleQuoted? { t with breaks := some 1 } .no cs
      else plainChar c cs
    | .no => plainChar c cs
where
  plainChar (c : Char) (cs : List Char) : Option (String × List Char) :=
    if c = '"' then some (t.text, cs)
    else if c = '\\' then doubleQuoted? t .started cs
    else if c = '\n' then if isMarker cs then none else doubleQuoted? t.newline .no cs
    else doubleQuoted? (if c = ' ' ∨ c = '\t' then t.blank c else t.push c) .no cs

/-! ## Plain scalars -/

def isFlowMark (c : Char) : Bool := c = ',' || c = '[' || c = ']' || c = '\x7b' || c = '\x7d'

/-- Whether a plain scalar ends before a character: at a colon that separates, and inside brackets
at any of their marks. -/
def endsPlain (flow : Bool) (c : Char) (cs : List Char) : Bool :=
  (c = ':' && (endsWord cs || (flow && (cs.head?.map isFlowMark).getD false))) ||
    (flow && (isFlowMark c || c = '?'))

/-- Characters that no plain scalar starts with. -/
def indicators : List Char :=
  ['-', '?', ':', ',', '[', ']', '\x7b', '\x7d', '#', '&', '*', '!', '|', '>', '\'', '"', '%', '@',
    '\x60', ' ', '\t', '\n']

/-- Whether a plain scalar can start here. -/
def startsPlain (flow : Bool) : List Char → Bool
  | [] => false
  | c :: cs =>
    !indicators.contains c || (!endsWord cs && (c = '-' || (!flow && (c = '?' || c = ':'))))

/-- How a plain scalar is read: inside brackets or not, over several lines or not, and from which
column its further lines start. -/
structure PlainRule where
  flow : Bool
  lines : Bool
  indent : Nat

/-- Reads a plain scalar.  `column` is where the next character stands and `rest` is what follows
the last word read. -/
def plainText (rule : PlainRule) (t : Folded) (column : Nat) (rest : List Char) :
    List Char → String × List Char
  | [] => (wordsOf t, rest)
  | c :: cs =>
    if c = ' ' then plainText rule (t.blank c) (column + 1) rest cs
    else if c = '\n' then
      if rule.lines && !isMarker cs then plainText rule t.newline 0 rest cs else (wordsOf t, rest)
    else if c = '\t' || endsPlain rule.flow c cs ||
        (c = '#' && (!t.blanks.isEmpty || t.breaks.isSome)) ||
        (t.breaks.isSome && !rule.flow && column < rule.indent) then (wordsOf t, rest)
    else plainText rule (t.push c) (column + 1) cs cs
where
  wordsOf (t : Folded) : String := String.ofList t.reversed.reverse

end ModelFormula.Document
