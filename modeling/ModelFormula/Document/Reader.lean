import ModelFormula.Document
import ModelFormula.Document.Folding
import ModelFormula.Document.Scalar
import ModelFormula.Failure

/-!
# Reading documents

Documents are written in blocks, whose nesting is their indentation, or inside brackets.

* `Document.ofText` — the document of a text: comments do not count, and a text without content
  stands for null.
-/

set_option autoImplicit false

namespace ModelFormula.Document

/-- What is left of a text, and the column where it starts. -/
structure Cursor where
  rest : List Char
  column : Nat

namespace Cursor

/-- The cursor at a later place of the text. -/
def moveTo (c : Cursor) (rest : List Char) : Cursor :=
  let passed := c.rest.take (c.rest.length - rest.length)
  let last := passed.reverse.takeWhile (· != '\n')
  if last.length = passed.length then ⟨rest, c.column + passed.length⟩ else ⟨rest, last.length⟩

/-- Drops blanks, comments and line breaks; `comment` says that a comment has begun. -/
def skipFrom (comment : Bool) : List Char → List Char
  | [] => []
  | c :: cs =>
    if c = '\n' then skipFrom false cs
    else if comment then skipFrom true cs
    else if c = ' ' then skipFrom false cs
    else if c = '#' then skipFrom true cs
    else c :: cs

/-- Drops blanks, comments and line breaks. -/
def skip (c : Cursor) : Cursor := c.moveTo (skipFrom false c.rest)

/-- Whether two cursors stand on one line, the second after the first. -/
def sameLine (c d : Cursor) : Bool :=
  !(c.rest.take (c.rest.length - d.rest.length)).contains '\n'

/-- Nothing is left of the document. -/
def atEnd (c : Cursor) : Bool := c.rest.isEmpty || (c.column = 0 && isMarker c.rest)

/-- Nothing is left of the line. -/
def atLineEnd (c : Cursor) : Bool :=
  match c.rest.dropWhile (· = ' ') with
  | [] => true
  | d :: _ => d = '\n' || d = '#'

/-- Whether an item of a sequence starts here. -/
def atDash (c : Cursor) : Bool := c.rest.head? = some '-' && endsWord (c.rest.drop 1)

end Cursor

/-! ## Scalars and brackets -/

/-- A quoted text, if one starts here. -/
def quoted? : List Char → Option (Option (String × List Char))
  | '\'' :: cs => some (singleQuoted? {} cs)
  | '"' :: cs => some (doubleQuoted? {} .no cs)
  | _ => none

def scalarNode (s : String) : Document := .scalar (.text s)

def plainNode (s : String) : Document := .scalar (Scalar.resolve s)

mutual
/-- A node inside brackets, or a bracketed node. -/
def flowNode? : Nat → List Char → Option (Document × List Char)
  | 0, _ => none
  | fuel + 1, cs =>
    match cs with
    | '[' :: rest => (flowItems? fuel [] rest).map fun (items, rest) => (.sequence items, rest)
    | '\x7b' :: rest =>
      (flowEntries? fuel [] rest).map fun (entries, rest) => (.mapping entries, rest)
    | _ =>
      match quoted? cs with
      | some result => result.map fun (s, rest) => (scalarNode s, rest)
      | none =>
        if startsPlain true cs then
          let (s, rest) := plainText ⟨true, true, 0⟩ {} 0 cs cs
          some (plainNode s, rest)
        else none
/-- The items up to a closing square bracket. -/
def flowItems? : Nat → List Document → List Char → Option (List Document × List Char)
  | 0, _, _ => none
  | fuel + 1, found, cs =>
    match Cursor.skipFrom false cs with
    | ']' :: rest => some (found.reverse, rest)
    | start => do
      let (k, rest) ← flowNode? fuel start
      let (item, rest) ←
        match Cursor.skipFrom false rest with
        | ':' :: more =>
          match flowValue? fuel more with
          | some (v, rest) => if k.isKey then some (Document.mapping [(k, v)], rest) else none
          | none => none
        | rest => some (k, rest)
      match Cursor.skipFrom false rest with
      | ',' :: rest => flowItems? fuel (item :: found) rest
      | ']' :: rest => some ((item :: found).reverse, rest)
      | _ => none
/-- The entries up to a closing brace. -/
def flowEntries? : Nat → List (Document × Document) → List Char →
    Option (List (Document × Document) × List Char)
  | 0, _, _ => none
  | fuel + 1, found, cs =>
    match Cursor.skipFrom false cs with
    | '\x7d' :: rest => some (found.reverse, rest)
    | start => do
      let (k, rest) ← flowNode? fuel start
      let (v, rest) ←
        match Cursor.skipFrom false rest with
        | ':' :: more => flowValue? fuel more
        | rest => some (Document.scalar .null, rest)
      if !k.isKey then none
      else
        match Cursor.skipFrom false rest with
        | ',' :: rest => flowEntries? fuel ((k, v) :: found) rest
        | '\x7d' :: rest => some (((k, v) :: found).reverse, rest)
        | _ => none
/-- The value after a colon, which may be left out. -/
def flowValue? : Nat → List Char → Option (Document × List Char)
  | 0, _ => none
  | fuel + 1, cs =>
    match Cursor.skipFrom false cs with
    | ',' :: rest => some (.scalar .null, ',' :: rest)
    | ']' :: rest => some (.scalar .null, ']' :: rest)
    | '\x7d' :: rest => some (.scalar .null, '\x7d' :: rest)
    | start => flowNode? fuel start
end

/-- A scalar or bracketed node that takes up the rest of its line; `indent` is the column from which
further lines of a plain scalar start. -/
def inlineNode? (fuel indent : Nat) (c : Cursor) : Option (Document × Cursor) := do
  let (d, rest) ←
    if c.rest.head? = some '[' || c.rest.head? = some '\x7b' then flowNode? fuel c.rest
    else
      match quoted? c.rest with
      | some result => result.map fun (s, rest) => (scalarNode s, rest)
      | none =>
        if startsPlain false c.rest then
          let (s, rest) := plainText ⟨false, true, indent⟩ {} c.column c.rest c.rest
          some (plainNode s, rest)
        else none
  let c := c.moveTo rest
  if c.atLineEnd then some (d, c) else none

/-! ## Blocks -/

/-- The cursor after a colon that ends a key. -/
def afterColon? (c : Cursor) (rest : List Char) : Option Cursor :=
  match rest.dropWhile (· = ' ') with
  | ':' :: more => if endsWord more then some (c.moveTo more) else none
  | _ => none

/-- A key on a single line, with the cursor after its colon. -/
def key? (c : Cursor) : Option (Document × Cursor) :=
  match quoted? c.rest with
  | some (some (s, rest)) =>
    if c.sameLine (c.moveTo rest) then
      (afterColon? c rest).map fun after => (scalarNode s, after)
    else none
  | some none => none
  | none =>
    if startsPlain false c.rest then
      let (s, rest) := plainText ⟨false, false, 0⟩ {} c.column c.rest c.rest
      (afterColon? c rest).map fun after => (plainNode s, after)
    else none

mutual
/-- A node that may be a block; `indent` is the least column of what belongs to it. -/
def blockNode? : Nat → Nat → Cursor → Option (Document × Cursor)
  | 0, _, _ => none
  | fuel + 1, indent, c =>
    if c.atDash then blockSequence? fuel c.column [] c
    else
      match key? c with
      | some _ => blockMapping? fuel c.column [] c
      | none => inlineNode? fuel indent c
/-- The items of a sequence whose dashes stand in one column. -/
def blockSequence? : Nat → Nat → List Document → Cursor → Option (Document × Cursor)
  | 0, _, _, _ => none
  | fuel + 1, column, found, c => do
    let after := c.moveTo (c.rest.drop 1)
    let next := after.skip
    let (item, c) ←
      if next.atEnd || next.column ≤ column then some (Document.scalar .null, next)
      else blockNode? fuel (column + 1) next
    let c := c.skip
    let found := item :: found
    if c.atEnd then some (.sequence found.reverse, c)
    else if c.column = column && c.atDash then blockSequence? fuel column found c
    else if c.column ≤ column then some (.sequence found.reverse, c)
    else none
/-- The entries of a mapping whose keys start in one column. -/
def blockMapping? : Nat → Nat → List (Document × Document) → Cursor → Option (Document × Cursor)
  | 0, _, _, _ => none
  | fuel + 1, column, found, c => do
    let (k, after) ← key? c
    let (v, c) ← blockValue? fuel column after
    let c := c.skip
    let found := (k, v) :: found
    if c.atEnd then some (.mapping found.reverse, c)
    else if c.column = column then blockMapping? fuel column found c
    else if c.column < column then some (.mapping found.reverse, c)
    else none
/-- The value of a key in a column: on the same line, or below it and further in; a sequence may
stand in the column of the key. -/
def blockValue? : Nat → Nat → Cursor → Option (Document × Cursor)
  | 0, _, _ => none
  | fuel + 1, column, after =>
    let c := after.skip
    if c.atEnd then some (.scalar .null, c)
    else if after.sameLine c then inlineNode? fuel (column + 1) c
    else if column < c.column then blockNode? fuel (column + 1) c
    else if column = c.column && c.atDash then blockSequence? fuel column [] c
    else some (.scalar .null, c)
end

/-! ## Texts -/

/-- Characters that a text may hold. -/
def isReadable (c : Char) : Bool :=
  let n := c.toNat
  n = 9 || n = 10 || n = 13 || (32 ≤ n && n ≤ 126) || n = 0x85 || (0xA0 ≤ n && n ≤ 0xFFFD) ||
    0x10000 ≤ n

/-- Whether nothing but an end mark is left. -/
def isFinished (c : Cursor) : Bool :=
  c.rest.isEmpty ||
    ("...".toList.isPrefixOf c.rest &&
      (c.moveTo (c.rest.drop 3)).atLineEnd && (c.moveTo (c.rest.drop 3)).skip.rest.isEmpty)

/-- The node of a document; on the line of a start mark it cannot be a block. -/
def root? (fuel : Nat) (c : Cursor) : Option (Document × Cursor) :=
  if "---".toList.isPrefixOf c.rest && isMarker c.rest then
    let after := c.moveTo (c.rest.drop 3)
    let next := after.skip
    if next.atEnd then some (.scalar .null, next)
    else if after.sameLine next then inlineNode? fuel 0 next
    else blockNode? fuel 0 next
  else if c.atEnd then some (.scalar .null, c)
  else blockNode? fuel 0 c

/-- The document of a text. -/
def ofText (s : String) : Except Failure Document :=
  let cs := s.toList
  let start := (Cursor.mk cs 0).skip
  match root? (4 * cs.length + 16) start with
  | some (d, c) => if cs.all isReadable && isFinished c.skip then .ok d else .error .invalidDocument
  | none => .error .invalidDocument

end ModelFormula.Document
