/-!
# Doubles taken apart

A double is undefined, infinite, or a signed significand times a power of two.  Everything that
has to be exact about a number (its text, its comparison with a whole number) is stated on these
parts, in `Nat` and `Int`.

* `Binary64.ofFloat` — the parts of a double; the significand is below `2 ^ 53`.
* `Binary64.integer?` — the whole number a double is, if it is one.
* `Binary64.truncated?` — the whole number that is left without the fractional part.
-/

set_option autoImplicit false

namespace ModelFormula

/-- The parts of a double: `finite s m q` is `± m · 2 ^ q`, negative when `s` holds. -/
inductive Binary64 where
  | undefined
  | infinite (negative : Bool)
  | finite (negative : Bool) (significand : Nat) (exponent : Int)
  deriving DecidableEq, Repr

namespace Binary64

/-- Reads sign, exponent and fraction from the 64 bits. -/
def ofBits (bits : UInt64) : Binary64 :=
  let n := bits.toNat
  let negative := decide (Nat.pow 2 63 ≤ n)
  let biased : Nat := n / Nat.pow 2 52 % Nat.pow 2 11
  let fraction : Nat := n % Nat.pow 2 52
  if biased = 2047 then
    if fraction = 0 then .infinite negative else .undefined
  else if biased = 0 then .finite negative fraction (-1074)
  else .finite negative (Nat.pow 2 52 + fraction) ((biased : Int) - 1075)

def ofFloat (x : Float) : Binary64 := ofBits x.toBits

/-- The whole number `m · 2 ^ q`, when the power of two divides out. -/
def wholePart? (m : Nat) (q : Int) : Option Nat :=
  if 0 ≤ q then some (m * Nat.pow 2 q.toNat)
  else if m % Nat.pow 2 (-q).toNat = 0 then some (m / Nat.pow 2 (-q).toNat) else none

/-- The whole number a double is; `-0.0` is `0`. -/
def integer? : Binary64 → Option Int
  | .finite negative m q =>
    (wholePart? m q).map fun n => if negative then -(n : Int) else n
  | _ => none

/-- The whole part of a finite double. -/
def truncated? : Binary64 → Option Int
  | .finite negative m q =>
    let n := m * Nat.pow 2 q.toNat / Nat.pow 2 (-q).toNat
    some (if negative then -(n : Int) else n)
  | _ => none

end Binary64

/-- A double reads as a whole number exactly when it has no fractional part. -/
def wholeOfFloat? (x : Float) : Option Int := (Binary64.ofFloat x).integer?

/-- The nearest double of a whole number, or `none` when it would be infinite. -/
def floatOfInt? (n : Int) : Option Float :=
  let x := Float.ofInt n
  if x.isInf then none else some x

end ModelFormula
