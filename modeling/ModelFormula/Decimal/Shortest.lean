import ModelFormula.Binary64

/-!
# Shortest decimals

The decimals that round to the double `m · 2 ^ q` form an interval around it, closed exactly when
`m` is even.  `Decimal.shortest` is the decimal with the fewest digits in that interval, and of
those the one nearest to the double, a tie going to the even digit.

All arithmetic is exact: with `a / b` standing for `2 ^ (q - 2) / 10 ^ k`, the double is
`4 · m · a / b` units of the decimal grid `10 ^ k`, and the ends of the interval lie at
`4 · m + 2` and at `4 · m - 2` quarters (`4 · m - 1` where the doubles below lie closer together).
-/

set_option autoImplicit false

namespace ModelFormula

/-- The decimal `digits · 10 ^ exponent`. -/
structure Decimal where
  digits : Nat
  exponent : Int
  deriving DecidableEq, Repr

namespace Decimal

/-- The fraction `2 ^ p / 10 ^ k` as numerator and denominator. -/
def scale (p k : Int) : Nat × Nat :=
  (Nat.pow 2 p.toNat * Nat.pow 10 (-k).toNat, Nat.pow 2 (-p).toNat * Nat.pow 10 k.toNat)

/-- Whether `10 ^ e ≤ num / den`. -/
def powerLe (e : Int) (num den : Nat) : Bool :=
  Nat.pow 10 e.toNat * den ≤ num * Nat.pow 10 (-e).toNat

/-- The exponent of the leading decimal digit of `num / den`, which is positive. -/
def leadingExponent (num den : Nat) : Int :=
  let guess : Int := ((Nat.log2 num : Int) - Nat.log2 den) * 30103 / 100000
  if powerLe (guess + 1) num den then guess + 1
  else if powerLe guess num den then guess
  else guess - 1

/-- The leading decimal exponent of `m · 2 ^ q`. -/
def magnitude (m : Nat) (q : Int) : Int :=
  leadingExponent (m * Nat.pow 2 q.toNat) (Nat.pow 2 (-q).toNat)

/-- The best decimal on the grid `10 ^ k`, if one of the two grid points around the double lies in
its rounding interval. -/
def onGrid? (m : Nat) (q k : Int) : Option Decimal :=
  let (a, b) := scale (q - 2) k
  let low := if m = Nat.pow 2 52 ∧ -1074 < q then 4 * m - 1 else 4 * m - 2
  let inside (d : Nat) : Bool :=
    if m % 2 = 0 then low * a ≤ d * b ∧ d * b ≤ (4 * m + 2) * a
    else low * a < d * b ∧ d * b < (4 * m + 2) * a
  let below := 4 * m * a / b
  let rest := 4 * m * a % b
  let upper : Bool := b < 2 * rest ∨ (b = 2 * rest ∧ below % 2 = 1)
  match inside below, inside (below + 1) with
  | true, true => some ⟨if upper then below + 1 else below, k⟩
  | true, false => some ⟨below, k⟩
  | false, true => some ⟨below + 1, k⟩
  | false, false => none

/-- Ten units of one grid are one unit of the next. -/
def carry (d : Decimal) : Decimal :=
  if d.digits = 10 then ⟨1, d.exponent + 1⟩ else d

/-- The shortest decimal that reads back as `m · 2 ^ q`, for `0 < m`.  Seventeen digits always
suffice. -/
def shortest (m : Nat) (q : Int) : Decimal :=
  let e := magnitude m q
  (((List.range 17).findSome? fun n : Nat => onGrid? m q (e - n)).map carry).getD ⟨0, 0⟩

/-- The whole number nearest to `m · 2 ^ q / 10 ^ k`, a half going to the even one. -/
def units (m : Nat) (q k : Int) : Nat :=
  let (a, b) := scale q k
  let below := m * a / b
  let rest := m * a % b
  if b < 2 * rest ∨ (b = 2 * rest ∧ below % 2 = 1) then below + 1 else below

/-- `m · 2 ^ q` rounded to a given count of significant digits; the result has exactly that many
digits. -/
def significant (count : Nat) (m : Nat) (q : Int) : Decimal :=
  let k := magnitude m q - (count - 1 : Nat)
  let d := units m q k
  if d = Nat.pow 10 count then ⟨Nat.pow 10 (count - 1), k + 1⟩ else ⟨d, k⟩

end Decimal

end ModelFormula
