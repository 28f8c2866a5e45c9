import ModelFormula.Decimal.Shortest

/-!
# Texts of doubles

Two ways to write a double.

* `Decimal.text` — the shortest decimal that reads back, positional while the leading exponent is
  at least `-4` and below `16`, else with an exponent of at least two digits; a whole number keeps
  its `.0`.
* `Decimal.twelveDigits` — twelve significant digits with an exponent, for values whose last bits
  are not fixed.

Both write `inf`, `-inf` and `nan`, and keep the sign of zero.
-/

set_option autoImplicit false

namespace ModelFormula.Decimal

/-- The decimal digits of a number, most significant first. -/
def digitChars (n : Nat) : List Char := Nat.toDigits 10 n

def zeros (n : Nat) : List Char := List.replicate n '0'

/-- An exponent with its sign and at least two digits. -/
def exponentText (e : Int) : List Char :=
  let ds := digitChars e.natAbs
  'e' :: (if e < 0 then '-' else '+') :: (zeros (2 - ds.length) ++ ds)

/-- `d.ddd` from a nonempty run of digits; a single digit stands alone. -/
def pointed : List Char → List Char
  | [] => []
  | [d] => [d]
  | d :: ds => d :: '.' :: ds

/-- Digits with the decimal point placed by the exponent `e` of the first digit. -/
def positional (ds : List Char) (e : Int) : List Char :=
  if e < 0 then '0' :: '.' :: (zeros (-e - 1).toNat ++ ds)
  else
    let whole := e.toNat + 1
    if ds.length ≤ whole then ds ++ zeros (whole - ds.length) ++ ['.', '0']
    else ds.take whole ++ '.' :: ds.drop whole

/-- A positive decimal in the shortest layout. -/
def layout (d : Decimal) : List Char :=
  let ds := digitChars d.digits
  let e := d.exponent + ds.length - 1
  if -4 ≤ e ∧ e < 16 then positional ds e else pointed ds ++ exponentText e

def signed (negative : Bool) (cs : List Char) : String :=
  String.ofList (if negative then '-' :: cs else cs)

/-- The shortest text of a double. -/
def text (x : Float) : String :=
  match Binary64.ofFloat x with
  | .undefined => "nan"
  | .infinite negative => signed negative ['i', 'n', 'f']
  | .finite negative 0 _ => signed negative ['0', '.', '0']
  | .finite negative m q => signed negative (layout (shortest m q))

/-- A double with twelve significant digits. -/
def twelveDigits (x : Float) : String :=
  match Binary64.ofFloat x with
  | .undefined => "nan"
  | .infinite negative => signed negative ['i', 'n', 'f']
  | .finite negative 0 _ => signed negative (pointed (zeros 12) ++ exponentText 0)
  | .finite negative m q =>
    let d := significant 12 m q
    signed negative (pointed (digitChars d.digits) ++ exponentText (d.exponent + 11))

end ModelFormula.Decimal
