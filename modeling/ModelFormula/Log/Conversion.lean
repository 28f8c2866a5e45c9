import ModelFormula.Decimal.Fixed
import ModelFormula.Log.Record

/-!
# Conversions of attributes

How the last letter of a directive, with flags, a width and a precision before it, writes a value.

* `Flags` — blanks, zeros and signs; `Flags.pad` and `Flags.padNumeral` fill a text and a number up
  to a width.
* `Numeral` — a number with its sign, a mark of its base and its figures.
* `Conversion` — the ways to write a value; `Conversion.write?` fails for values of the wrong kind.
-/

set_option autoImplicit false

namespace ModelFormula

/-! ## Numbers and padding -/

/-- A number: its sign, a mark of its base, and its figures. -/
structure Numeral where
  negative : Bool
  mark : List Char := []
  figures : List Char

namespace Numeral

/-- A whole number to some base, with at least as many digits as the precision says. -/
def ofInt (base : Nat) (mark : List Char) (precision : Option Nat) (n : Int) : Numeral :=
  let ds := Nat.toDigits base n.natAbs
  ⟨decide (n < 0), mark, Decimal.zeros (precision.getD 0 - ds.length) ++ ds⟩

/-- A double, its digits laid out with six digits of precision unless another one is given. -/
def ofDouble (layout : Nat → Bool → Nat → Int → List Char) (alternate : Bool)
    (precision : Option Nat) (x : Float) : Numeral :=
  match Binary64.ofFloat x with
  | .undefined => ⟨false, [], ['n', 'a', 'n']⟩
  | .infinite negative => ⟨negative, [], ['i', 'n', 'f']⟩
  | .finite negative m q => ⟨negative, [], layout (precision.getD 6) alternate m q⟩

/-- A number in capital letters, if these are asked for. -/
def inCapitals (capital : Bool) (n : Numeral) : Numeral :=
  if capital then ⟨n.negative, n.mark.map Char.toUpper, n.figures.map Char.toUpper⟩ else n

end Numeral

structure Flags where
  left : Bool := false
  zeros : Bool := false
  plus : Bool := false
  blank : Bool := false
  alternate : Bool := false
  deriving DecidableEq, Repr

namespace Flags

def isFlag (c : Char) : Bool := c = '#' || c = '0' || c = '+' || c = ' ' || c = '-'

def ofChars (cs : List Char) : Flags :=
  ⟨cs.contains '-', cs.contains '0', cs.contains '+', cs.contains ' ', cs.contains '#'⟩

def blanks (n : Nat) : List Char := List.replicate n ' '

def pad (f : Flags) (width : Nat) (cs : List Char) : List Char :=
  if f.left then cs ++ blanks (width - cs.length) else blanks (width - cs.length) ++ cs

/-- Pads a number; zeros stand between its sign and its figures. -/
def padNumeral (f : Flags) (width : Nat) (n : Numeral) : List Char :=
  let sign := if n.negative then ['-'] else if f.plus then ['+'] else if f.blank then [' '] else []
  let head := sign ++ n.mark
  let room := width - (head.length + n.figures.length)
  if f.zeros && !f.left then head ++ Decimal.zeros room ++ n.figures
  else pad f width (head ++ n.figures)

end Flags

/-! ## Values -/

namespace Attribute

/-- A whole number; a double loses its fractional part. -/
def integer? : Attribute → Option Int
  | .whole n => some n
  | .real x => (Binary64.ofFloat x).truncated?
  | _ => none

def whole? : Attribute → Option Int
  | .whole n => some n
  | _ => none

def double? : Attribute → Option Float
  | .whole n => floatOfInt? n
  | .real x => some x
  | _ => none

/-- A character, also by its code. -/
def character? : Attribute → Option Char
  | .whole n => if 0 ≤ n ∧ n.toNat.isValidChar then some (Char.ofNat n.toNat) else none
  | .text s =>
    match s.toList with
    | [c] => some c
    | _ => none
  | _ => none

end Attribute

/-! ## Conversions -/

/-- A way to write a value. -/
inductive Conversion where
  | text
  | quoted
  /-- Between quotes, and in ASCII. -/
  | ascii
  | character
  | decimal
  | octal
  | hexadecimal (capital : Bool)
  | exponential (capital : Bool)
  | fixed (capital : Bool)
  | general (capital : Bool)
  deriving DecidableEq, Repr

namespace Conversion

def ofLetter? : Char → Option Conversion
  | 's' => some .text
  | 'r' => some .quoted
  | 'a' => some .ascii
  | 'c' => some .character
  | 'd' => some .decimal
  | 'i' => some .decimal
  | 'u' => some .decimal
  | 'o' => some .octal
  | 'x' => some (.hexadecimal false)
  | 'X' => some (.hexadecimal true)
  | 'e' => some (.exponential false)
  | 'E' => some (.exponential true)
  | 'f' => some (.fixed false)
  | 'F' => some (.fixed true)
  | 'g' => some (.general false)
  | 'G' => some (.general true)
  | _ => none

/-- The greatest precision for whole numbers. -/
def mostDigits : Nat := 2147483644

/-- The mark of a base, in the alternate form. -/
def mark (f : Flags) (letter : Char) : List Char := if f.alternate then ['0', letter] else []

def cut (precision : Option Nat) (s : String) : List Char :=
  match precision with
  | some n => s.toList.take n
  | none => s.toList

/-- A whole number of at most the greatest precision. -/
def writeInt? (f : Flags) (width : Nat) (precision : Option Nat) (base : Nat) (mark : List Char)
    (capital : Bool) (n? : Option Int) : Option (List Char) :=
  if precision.getD 0 ≤ mostDigits then
    n?.map fun n => f.padNumeral width ((Numeral.ofInt base mark precision n).inCapitals capital)
  else none

def writeDouble? (f : Flags) (width : Nat) (precision : Option Nat)
    (layout : Nat → Bool → Nat → Int → List Char) (capital : Bool) (a : Attribute) :
    Option (List Char) :=
  a.double?.map fun x =>
    f.padNumeral width ((Numeral.ofDouble layout f.alternate precision x).inCapitals capital)

/-- The text of a value, unless the value is of the wrong kind. -/
def write? (f : Flags) (width : Nat) (precision : Option Nat) (a : Attribute) :
    Conversion → Option (List Char)
  | .text => some (f.pad width (cut precision a.asText))
  | .quoted => some (f.pad width (cut precision a.shown))
  | .ascii => some (f.pad width (cut precision (Text.inAscii a.shown)))
  | .character => a.character?.map fun c => f.pad width [c]
  | .decimal => writeInt? f width precision 10 [] false a.integer?
  | .octal => writeInt? f width precision 8 (mark f 'o') false a.whole?
  | .hexadecimal capital => writeInt? f width precision 16 (mark f 'x') capital a.whole?
  | .exponential capital => writeDouble? f width precision Decimal.exponential capital a
  | .fixed capital => writeDouble? f width precision Decimal.fixed capital a
  | .general capital => writeDouble? f width precision Decimal.general capital a

end Conversion

end ModelFormula
