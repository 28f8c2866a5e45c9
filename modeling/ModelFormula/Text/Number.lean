import ModelFormula.Text.Blank
import ModelFormula.Text.Digit

/-!
# Numbers read from text

* `Text.digits?` — digits with single underscores between them.
* `Text.wholeNumber?` — a whole number in the digits of any script, blanks around it dropped.
* `Text.settingInteger?` — a whole number in ASCII digits, white space around it dropped; a point
  followed by zeros only may close it.
* `Text.double?` — a decimal number, an infinity or an undefined number, blanks around it dropped.
-/

set_option autoImplicit false

namespace ModelFormula.Text

/-- Reads the digits that follow one digit; an underscore must be followed by a digit.  Gives the
digits read and the rest. -/
def moreDigits (value? : Char → Option Nat) : List Char → List Nat × List Char
  | [] => ([], [])
  | '_' :: c :: cs =>
    match value? c with
    | some d => let (ds, rest) := moreDigits value? cs; (d :: ds, rest)
    | none => ([], '_' :: c :: cs)
  | c :: cs =>
    match value? c with
    | some d => let (ds, rest) := moreDigits value? cs; (d :: ds, rest)
    | none => ([], c :: cs)

/-- Reads a run of digits, which may be empty. -/
def takeDigits (value? : Char → Option Nat) : List Char → List Nat × List Char
  | [] => ([], [])
  | c :: cs =>
    match value? c with
    | some d => let (ds, rest) := moreDigits value? cs; (d :: ds, rest)
    | none => ([], c :: cs)

def numberOfDigits (ds : List Nat) : Nat := ds.foldl (fun n d => 10 * n + d) 0

/-- The number written by a nonempty run of digits that is the whole text. -/
def digits? (value? : Char → Option Nat) (cs : List Char) : Option Nat :=
  match takeDigits value? cs with
  | ([], _) => none
  | (ds, []) => some (numberOfDigits ds)
  | _ => none

/-- Splits off a sign; the flag is set by a minus. -/
def takeSign : List Char → Bool × List Char
  | '-' :: cs => (true, cs)
  | '+' :: cs => (false, cs)
  | cs => (false, cs)

def applySign (negative : Bool) (n : Nat) : Int := if negative then -(n : Int) else n

/-- A whole number in the decimal digits of any script. -/
def wholeNumber? (s : String) : Option Int :=
  let (negative, cs) := takeSign (trim isBlank s.toList)
  (digits? digitValue? cs).map (applySign negative)

/-- Drops a point that is followed by nothing but zeros. -/
def dropZeroFraction (cs : List Char) : List Char :=
  let whole := cs.takeWhile (· != '.')
  if (cs.drop (whole.length + 1)).all (· == '0') then whole else cs

/-- A whole number as a setting may give it. -/
def settingInteger? (s : String) : Option Int :=
  let (negative, cs) := takeSign (trim isWhiteSpace s.toList)
  (digits? asciiDigitValue? (dropZeroFraction cs)).map (applySign negative)

def lowerAscii (cs : List Char) : List Char := cs.map Char.toLower

/-- The double nearest to `± n · 10 ^ e`, infinite or zero when the exponent is out of reach. -/
def scientific (negative : Bool) (n : Nat) (e : Int) : Float :=
  let size : Int := e + (Nat.toDigits 10 n).length
  let x :=
    if n = 0 ∨ size < -400 then 0.0
    else if 400 < size then 1.0 / 0.0
    else Float.ofScientific n (decide (e < 0)) e.natAbs
  if negative then -x else x

/-- The exponent part of a decimal number, when one is there and reaches the end. -/
def exponentPart? : List Char → Option Int
  | [] => some 0
  | c :: cs =>
    if c = 'e' ∨ c = 'E' then
      let (negative, ds) := takeSign cs
      (digits? digitValue? ds).map (applySign negative)
    else none

/-- A decimal number without its sign: digits, at most one point, an optional exponent. -/
def unsignedDouble? (negative : Bool) (cs : List Char) : Option Float :=
  let (whole, afterWhole) := takeDigits digitValue? cs
  let (fraction, rest) :=
    match afterWhole with
    | '.' :: more => takeDigits digitValue? more
    | more => ([], more)
  if whole.isEmpty && fraction.isEmpty then none
  else
    (exponentPart? rest).map fun e =>
      scientific negative (numberOfDigits (whole ++ fraction)) (e - fraction.length)

/-- A double read from text. -/
def double? (s : String) : Option Float :=
  let (negative, cs) := takeSign (trim isBlank s.toList)
  let word := lowerAscii cs
  if word = "inf".toList ∨ word = "infinity".toList then
    some (if negative then -1.0 / 0.0 else 1.0 / 0.0)
  else if word = "nan".toList then some (0.0 / 0.0)
  else unsignedDouble? negative cs

end ModelFormula.Text
