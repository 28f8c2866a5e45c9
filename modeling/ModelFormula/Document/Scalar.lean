import ModelFormula.Plain
import ModelFormula.Text.Digit
import ModelFormula.Text.Number
import ModelFormula.Text.Split

/-!
# Plain scalars

What a scalar without quotes means: null, a truth value, a number, a date, or the text itself.

* `Scalar.resolve` — the meaning of a scalar.
* `Scalar.isText` — whether a scalar means its own text.
-/

set_option autoImplicit false

namespace ModelFormula.Scalar

def nullWords : List String := ["", "~", "null", "Null", "NULL"]

def trueWords : List String :=
  ["yes", "Yes", "YES", "true", "True", "TRUE", "on", "On", "ON"]

def falseWords : List String :=
  ["no", "No", "NO", "false", "False", "FALSE", "off", "Off", "OFF"]

/-! ## Numbers -/

def dropUnderscores (cs : List Char) : List Char := cs.filter (· != '_')

/-- The number of digits of a base, underscores between them dropped. -/
def inBase? (base : Nat) (cs : List Char) : Option Nat :=
  let digits := dropUnderscores cs
  if digits.isEmpty then none
  else
    digits.foldlM (fun n c =>
      match Text.hexDigitValue? c with
      | some d => if d < base then some (base * n + d) else none
      | none => none) 0

/-- A part of a number in base sixty: one digit, or two up to fifty-nine. -/
def sixtieth? (cs : List Char) : Option Nat :=
  match cs with
  | [_] => inBase? 10 cs
  | [a, _] => if a < '6' then inBase? 10 cs else none
  | _ => none

/-- A number of parts in base sixty. -/
def sexagesimal? (cs : List Char) : Option Nat :=
  match Text.split ':' cs with
  | first :: second :: rest =>
    match inBase? 10 first, (second :: rest).mapM sixtieth? with
    | some n, some parts =>
      if first.head? = some '0' then none else some (parts.foldl (fun n p => 60 * n + p) n)
    | _, _ => none
  | _ => none

/-- A whole number without its sign: binary, octal, hexadecimal, decimal or in base sixty. -/
def magnitude? (cs : List Char) : Option Nat :=
  match cs with
  | ['0'] => some 0
  | '0' :: 'b' :: digits => inBase? 2 digits
  | '0' :: 'x' :: digits => inBase? 16 digits
  | '0' :: digits => inBase? 8 ('0' :: digits)
  | '_' :: _ => none
  | digits => if digits.contains ':' then sexagesimal? digits else inBase? 10 digits

def integer? (cs : List Char) : Option Int :=
  let (negative, rest) := Text.takeSign cs
  (magnitude? rest).map (Text.applySign negative)

def isDigitOrUnderscore (c : Char) : Bool := c.isDigit || c = '_'

/-- The exponent of a decimal number: it must have a sign. -/
def exponent? (cs : List Char) : Option Int :=
  match cs with
  | [] => some 0
  | e :: sign :: digits =>
    if (e = 'e' ∨ e = 'E') ∧ (sign = '+' ∨ sign = '-') ∧ !digits.isEmpty ∧ digits.all Char.isDigit
    then (inBase? 10 digits).map (Text.applySign (sign = '-'))
    else none
  | _ => none

def infinityWords : List String := [".inf", ".Inf", ".INF"]

def undefinedWords : List String := [".nan", ".NaN", ".NAN"]

/-- A decimal number without its sign; `whole` stands before the point. -/
def decimal? (negative : Bool) (whole rest : List Char) : Option Float :=
  let fraction := rest.takeWhile isDigitOrUnderscore
  match exponent? (rest.drop fraction.length) with
  | none => none
  | some e =>
    let places := dropUnderscores fraction
    let digits := dropUnderscores whole ++ places
    (inBase? 10 digits).map fun n => Text.scientific negative n (e - places.length)

/-- A double: a point is needed, and an infinity or the undefined number starts with one. -/
def float? (cs : List Char) : Option Float :=
  let (negative, rest) := Text.takeSign cs
  let word := String.ofList rest
  if infinityWords.contains word then some (if negative then -1.0 / 0.0 else 1.0 / 0.0)
  else if undefinedWords.contains (String.ofList cs) then some (0.0 / 0.0)
  else
    let whole := rest.takeWhile (· != '.')
    match rest.drop whole.length with
    | '.' :: more =>
      match whole, more with
      | [], c :: _ => if c.isDigit && cs.head? = some '.' then decimal? negative [] more else none
      | [], [] => none
      | c :: _, _ =>
        if c.isDigit && whole.all isDigitOrUnderscore then decimal? negative whole more
        else if whole.contains ':' && more.all isDigitOrUnderscore then
          match sexagesimal? whole, decimal? negative ['0'] more with
          | some n, some x =>
            let size := Float.ofNat n
            some (if negative then x - size else x + size)
          | _, _ => none
        else none
    | _ => none

/-! ## Dates -/

/-- Takes between `least` and `most` digits off the front. -/
def takeDigits? (least most : Nat) (cs : List Char) : Option (List Char) :=
  let found := ((cs.take most).takeWhile Char.isDigit).length
  if least ≤ found then some (cs.drop found) else none

def takeChar? (c : Char) : List Char → Option (List Char)
  | d :: cs => if c = d then some cs else none
  | [] => none

/-- Year, month and day with at least the given numbers of digits. -/
def takeDate? (least : Nat) (cs : List Char) : Option (List Char) := do
  let cs ← takeDigits? 4 4 cs
  let cs ← takeChar? '-' cs
  let cs ← takeDigits? least 2 cs
  let cs ← takeChar? '-' cs
  takeDigits? least 2 cs

def isBlank (c : Char) : Bool := c = ' ' || c = '\t'

/-- What stands between a date and a time. -/
def takeTimeMark? (cs : List Char) : Option (List Char) :=
  match cs with
  | 'T' :: rest => some rest
  | 't' :: rest => some rest
  | c :: rest => if isBlank c then some (rest.dropWhile isBlank) else none
  | [] => none

def takeTime? (cs : List Char) : Option (List Char) := do
  let cs ← takeDigits? 1 2 cs
  let cs ← takeChar? ':' cs
  let cs ← takeDigits? 2 2 cs
  let cs ← takeChar? ':' cs
  let cs ← takeDigits? 2 2 cs
  match cs with
  | '.' :: rest => some (rest.dropWhile Char.isDigit)
  | rest => some rest

/-- Whether a time zone, or nothing, is all that is left. -/
def isZone (cs : List Char) : Bool :=
  match cs.dropWhile isBlank with
  | [] => cs.isEmpty
  | ['Z'] => true
  | sign :: rest =>
    (sign = '+' || sign = '-') &&
      match takeDigits? 1 2 rest with
      | some [] => true
      | some (':' :: minutes) => takeDigits? 2 2 minutes == some []
      | _ => false

/-- A date, or a date with a time. -/
def isDate (cs : List Char) : Bool :=
  takeDate? 2 cs == some [] ||
    match takeDate? 1 cs >>= takeTimeMark? >>= takeTime? with
    | some rest => isZone rest
    | none => false

/-! ## Meaning -/

/-- Words that stand for something other than a value. -/
def isMark (s : String) : Bool := s = "<<" || s = "="

/-- A date, which no setting takes. -/
def date : Plain := .list [.null]

/-- The meaning of a scalar without quotes. -/
def resolve (s : String) : Plain :=
  let cs := s.toList
  if nullWords.contains s then .null
  else if trueWords.contains s then .bool true
  else if falseWords.contains s then .bool false
  else
    match integer? cs, float? cs with
    | some n, _ => .int n
    | none, some x => .float x
    | none, none => if isDate cs then date else .text s

/-- Whether a scalar without quotes means its own text. -/
def isText (s : String) : Bool := decide (resolve s = .text s) && !isMark s

end ModelFormula.Scalar
