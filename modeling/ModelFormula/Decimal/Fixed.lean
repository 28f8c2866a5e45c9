import ModelFormula.Decimal.Text

/-!
# Decimals of a given precision

The digits of `m · 2 ^ q` in the three layouts of formatted output, rounded exactly, a half going to
the even digit.

* `Decimal.exponential` — one digit before the point, and an exponent.
* `Decimal.fixed` — a given number of digits after the point.
* `Decimal.general` — a given number of significant digits, with an exponent only if the number is
  very small or too large for them; zeros at the end are dropped.

In the alternate form a point stands also when no digit follows it, and no zeros are dropped.
-/

set_option autoImplicit false

namespace ModelFormula.Decimal

/-- Digits before and after a point. -/
def joined (alternate : Bool) (whole fraction : List Char) : List Char :=
  if fraction.isEmpty && !alternate then whole else whole ++ '.' :: fraction

/-- The first digits of `m · 2 ^ q`, rounded, and the exponent of the first. -/
def leading (count m : Nat) (q : Int) : List Char × Int :=
  if m = 0 then (zeros count, 0)
  else
    let d := significant count m q
    (digitChars d.digits, d.exponent + (count - 1 : Nat))

def exponential (precision : Nat) (alternate : Bool) (m : Nat) (q : Int) : List Char :=
  let (ds, e) := leading (precision + 1) m q
  joined alternate (ds.take 1) (ds.drop 1) ++ exponentText e

def fixed (precision : Nat) (alternate : Bool) (m : Nat) (q : Int) : List Char :=
  let ds := digitChars (units m q (-precision))
  let ds := zeros (precision + 1 - ds.length) ++ ds
  joined alternate (ds.take (ds.length - precision)) (ds.drop (ds.length - precision))

def dropZeros (ds : List Char) : List Char := (ds.reverse.dropWhile (· = '0')).reverse

def general (precision : Nat) (alternate : Bool) (m : Nat) (q : Int) : List Char :=
  let count := max 1 precision
  let (ds, e) := leading count m q
  let kept (fraction : List Char) := if alternate then fraction else dropZeros fraction
  if e < -4 ∨ (count : Int) ≤ e then
    joined alternate (ds.take 1) (kept (ds.drop 1)) ++ exponentText e
  else if e < 0 then joined alternate ['0'] (kept (zeros (-e - 1).toNat ++ ds))
  else joined alternate (ds.take (e.toNat + 1)) (kept (ds.drop (e.toNat + 1)))

end ModelFormula.Decimal
