import ModelFormula.Log.Conversion
import ModelFormula.Text.Word

/-!
# Forms of log lines

A form is a text with directives `%(name)s` for the attributes of a record; flags, a width and a
precision may stand before the last letter.  A form is checked once, when a handler takes it, and read
anew for every line.  The check only looks for a placeholder somewhere in the form, so that a form may
pass and still have no line.

* `Form.isValid` — the check.
* `Form.parse?` — the characters and directives of a form, if it can be read.
* `Form.fill?` — the text of these, unless a directive asks for what is not there.
* `Form.line?` — the line of a record.
-/

set_option autoImplicit false

namespace ModelFormula.Form

/-- The form that an empty one stands for. -/
def messageOnly : String := "%(message)s"

/-- The form in force. -/
def effective (form : String) : String := if form = "" then messageOnly else form

/-! ## The check -/

/-- The letters that can end a placeholder; three characters of other scripts count as forms of `i`
and `s`. -/
def isLastLetter (c : Char) : Bool :=
  "diouxefgcrsa%".toList.contains c.toLower || c = '\u0130' || c = '\u0131' || c = '\u017F'

/-- What stands after a star or after digits of any script, if one of them is there. -/
def dropSize : List Char → List Char
  | '*' :: cs => cs
  | cs => cs.dropWhile Text.isDecimal

/-- What stands after a point with a size, if one is there. -/
def dropPrecision (cs : List Char) : List Char :=
  match cs with
  | '.' :: more => if (dropSize more).length < more.length then dropSize more else cs
  | _ => cs

/-- Whether a text begins with a word in parentheses, flags, sizes and a last letter. -/
def isPlaceholder (cs : List Char) : Bool :=
  match cs with
  | '(' :: more =>
    let name := more.takeWhile Text.isWordChar
    match more.drop name.length with
    | ')' :: rest =>
      match dropPrecision (dropSize (rest.dropWhile Flags.isFlag)) with
      | c :: _ => !name.isEmpty && isLastLetter c
      | [] => false
    | _ => false
  | _ => false

/-- Whether a placeholder stands somewhere after a percent sign. -/
def hasPlaceholder : List Char → Bool
  | [] => false
  | c :: cs => (c = '%' && isPlaceholder cs) || hasPlaceholder cs

/-- Whether a form has at least one placeholder. -/
def isValid (form : String) : Bool := hasPlaceholder (effective form).toList

/-! ## Reading -/

structure Directive where
  /-- The name of an attribute; without one, all of them at once are meant. -/
  key : Option String
  flags : Flags
  width : Nat
  precision : Option Nat
  conversion : Conversion
  deriving DecidableEq, Repr

/-- A part of a form. -/
inductive Segment where
  | text (c : Char)
  | directive (d : Directive)
  deriving DecidableEq, Repr

/-- Takes a name up to the closing parenthesis; other parentheses in it must match. -/
def takeKey : Nat → List Char → Option (List Char × List Char)
  | _, [] => none
  | 0, ')' :: cs => some ([], cs)
  | depth + 1, ')' :: cs => (takeKey depth cs).map fun found => (')' :: found.1, found.2)
  | depth, '(' :: cs => (takeKey (depth + 1) cs).map fun found => ('(' :: found.1, found.2)
  | depth, c :: cs => (takeKey depth cs).map fun found => (c :: found.1, found.2)

/-- The name of a directive, if it has one. -/
def key? : List Char → Option (Option String × List Char)
  | '(' :: cs => (takeKey 0 cs).map fun found => (some (String.ofList found.1), found.2)
  | cs => some (none, cs)

def numberOf (cs : List Char) : Nat := cs.foldl (fun n c => 10 * n + (c.toNat - 48)) 0

/-- Takes a number off the front, if one is there; it must not be too large.  A star is refused: it
takes the size from the values, and leaves none to write, since a directive has one value. -/
def size? (most : Nat) (cs : List Char) : Option (Option Nat × List Char) :=
  let digits := cs.takeWhile Char.isDigit
  if cs.head? = some '*' then none
  else if digits.isEmpty then some (none, cs)
  else if numberOf digits ≤ most then some (some (numberOf digits), cs.drop digits.length)
  else none

/-- The greatest width. -/
def mostWide : Nat := 9223372036854775807

/-- The greatest precision. -/
def mostPrecise : Nat := 2147483647

/-- A point with a number after it, if one is there; the point alone stands for zero. -/
def precision? : List Char → Option (Option Nat × List Char)
  | '.' :: rest => (size? mostPrecise rest).map fun found => (some (found.1.getD 0), found.2)
  | cs => some (none, cs)

/-- Drops one letter for the length of a number, which changes nothing. -/
def dropLength : List Char → List Char
  | 'h' :: cs => cs
  | 'l' :: cs => cs
  | 'L' :: cs => cs
  | cs => cs

/-- The directive that follows a percent sign, and what stands after it. -/
def directive? (cs : List Char) : Option (Directive × List Char) := do
  let (key, cs) ← key? cs
  let flags := cs.takeWhile Flags.isFlag
  let (width, cs) ← size? mostWide (cs.drop flags.length)
  let (precision, cs) ← precision? cs
  match dropLength cs with
  | letter :: rest =>
    (Conversion.ofLetter? letter).map fun conversion =>
      (⟨key, .ofChars flags, width.getD 0, precision, conversion⟩, rest)
  | [] => none

/-- Reads a form; the number is how many characters still belong to a directive already read.  Two
percent signs stand for one. -/
def parseFrom? : Nat → List Char → Option (List Segment)
  | _, [] => some []
  | skipped + 1, _ :: cs => parseFrom? skipped cs
  | 0, '%' :: '%' :: cs => (parseFrom? 0 cs).map (.text '%' :: ·)
  | 0, '%' :: cs =>
    match directive? cs with
    | some (d, rest) => (parseFrom? (cs.length - rest.length) cs).map (.directive d :: ·)
    | none => none
  | 0, c :: cs => (parseFrom? 0 cs).map (.text c :: ·)

/-- The characters and directives of a form. -/
def parse? (form : String) : Option (List Segment) := parseFrom? 0 (effective form).toList

/-! ## Lines -/

/-- What directives can be filled with. -/
structure Values where
  /-- The attributes, by their names. -/
  named : Dictionary String Attribute
  /-- The value for a directive without a name; every directive uses it up. -/
  whole : Option Attribute

def Directive.value? (d : Directive) (v : Values) : Option Attribute :=
  match d.key with
  | some name => v.named.get? name
  | none => v.whole

/-- The text of a directive. -/
def Directive.fill? (d : Directive) (v : Values) : Option (List Char) :=
  (d.value? v).bind (d.conversion.write? d.flags d.width d.precision ·)

/-- The text of the parts of a form, one after the other. -/
def fill? (v : Values) : List Segment → Option (List Char)
  | [] => some []
  | .text c :: rest => (fill? v rest).map (c :: ·)
  | .directive d :: rest => do
    let s ← d.fill? v
    let line ← fill? { v with whole := none } rest
    return s ++ line

/-- Whether a form asks for the date. -/
def isDated : List Char → Bool
  | [] => false
  | c :: cs => "%(asctime)".toList.isPrefixOf (c :: cs) || isDated cs

/-- The values of a record for a form. -/
def valuesOf (form : String) (r : Record) : Values :=
  let dated := isDated (effective form).toList
  ⟨r.attributes dated, some (.other (r.shown dated))⟩

/-- The line of a record in a form, unless the form cannot be read or asks for what is not there. -/
def line? (form : String) (r : Record) : Option String :=
  (parse? form).bind fun segments => (fill? (valuesOf form r) segments).map String.ofList

end ModelFormula.Form
