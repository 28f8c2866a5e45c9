import Mathlib
import ModelFormula.Column

/-!
# Undefined doubles

Which doubles are undefined, and so stand for missing values.

* `isNaN_of_isInf` — an infinite number is not undefined.
* `isNaN_ofInt` — neither is the double nearest to a whole number.
* `isNaN_missing` — the double of a missing value is undefined.
-/

set_option autoImplicit false

namespace ModelFormula.Double

open Float.Model (Format UnpackedFloat)
open Float.Model.UnpackedFloat

theorem isNaN_of_isInf {x : Float} (h : x.isInf = true) : x.isNaN = false := by
  have h' : x.toModel.unpack.isInf = true := h
  show x.toModel.unpack.isNaN = false
  cases hx : x.toModel.unpack with
  | infinity sign => rfl
  | notANumber => rw [hx] at h'; cases h'
  | zero sign => rfl
  | finite sign m q hm => rfl

/-- The double that stands for a missing value. -/
theorem isNaN_missing {α : Type} (number : α → Float) :
    (Column.floatOf number none).isNaN = true := by
  show (0.0 / 0.0 : Float).isNaN = true
  decide +kernel

/-! ## Whole numbers -/

/-- The exponent bits of an encoding tell whether it can be undefined. -/
theorem isNaN_unpack_of_exponent {bits : BitVec Format.binary64.numBits}
    (h : unpackExponent bits ≠ -1#11) : (UnpackedFloat.unpack .binary64 bits).isNaN = false := by
  unfold UnpackedFloat.unpack
  simp only
  rw [if_neg h]
  split
  · split <;> rfl
  · rfl

theorem isNaN_unpack_packedInfinity (sign : UnpackedFloat.Sign) :
    (UnpackedFloat.unpack .binary64 (packedInfinity .binary64 sign)).isNaN = false := by
  cases sign <;> rfl

/-- Encoding a number that is not undefined and reading it back gives one that is not. -/
theorem isNaN_unpack_pack {x : UnpackedFloat} (h : x.isNaN = false) :
    (UnpackedFloat.unpack .binary64 (UnpackedFloat.pack .binary64 x)).isNaN = false := by
  cases x with
  | notANumber => cases h
  | infinity sign => exact isNaN_unpack_packedInfinity sign
  | zero sign => cases sign <;> rfl
  | finite sign m q hm =>
    rw [UnpackedFloat.pack]
    simp only
    split
    · exact isNaN_unpack_packedInfinity sign
    · rename_i small
      split
      · refine isNaN_unpack_of_exponent fun same => ?_
        rw [unpackExponent_packComponents] at same
        have := congrArg BitVec.toNat same
        simp at this
        omega
      · refine isNaN_unpack_of_exponent fun same => ?_
        rw [unpackExponent_packComponents] at same
        exact absurd same (by decide)

theorem isNaN_round (sign : UnpackedFloat.Sign) (m : Nat) (q : Int) :
    (UnpackedFloat.round .binary64 sign m q).isNaN = false := by
  unfold UnpackedFloat.round roundWithAccuracy
  simp only
  split <;> rfl

theorem isNaN_mul {x y : UnpackedFloat} (hx : x.isNaN = false) (hy : y.isFinite = true)
    (hz : ∀ sign, y ≠ .zero sign) : (UnpackedFloat.mul .binary64 x y).isNaN = false := by
  cases y with
  | notANumber => cases hy
  | infinity sign => cases hy
  | zero sign => exact absurd rfl (hz sign)
  | finite sign m q hm =>
    cases x with
    | notANumber => cases hx
    | infinity sign => rfl
    | zero sign => rfl
    | finite sign' m' q' hm' =>
      unfold UnpackedFloat.mul roundWithAccuracy
      simp only
      split <;> rfl

/-- The double one is a positive finite number. -/
theorem unpack_one : ∃ m q hm,
    (Float.exactlyRepresentablePowersOfTen[0]).toModel.unpack = .finite .positive m q hm :=
  ⟨_, _, _, rfl⟩

theorem isNaN_ofInt_normalized (n : Int) :
    (UnpackedFloat.ofInt .binary64 n).isNaN = false := by
  unfold UnpackedFloat.ofInt Float.Model.UnpackedFloat.normalize
  split
  · exact isNaN_round _ _ _
  · rfl
  · exact isNaN_round _ _ _

theorem isNaN_ofNat (n : Nat) : (Float.ofNat n).isNaN = false := by
  show (Float.ofScientific n false 0).toModel.unpack.isNaN = false
  unfold Float.ofScientific
  split
  · have whole : (n.toUInt64.toFloat).toModel.unpack.isNaN = false :=
      isNaN_unpack_pack (isNaN_ofInt_normalized _)
    obtain ⟨m, q, hm, one⟩ := unpack_one
    refine isNaN_unpack_pack (isNaN_mul whole ?_ ?_)
    · rw [one]; rfl
    · intro sign same
      rw [one] at same
      cases same
  · refine isNaN_unpack_pack ?_
    unfold UnpackedFloat.ofScientific
    simp only [Bool.false_eq_true, if_false]
    split
    · rfl
    · split
      · rfl
      · split
        · rfl
        · split
          · exact isNaN_mul rfl rfl fun sign same => by cases same
          · rename_i whole
            exact absurd (Int.natCast_nonneg 0) whole

/-- A whole number has a double that is not undefined. -/
theorem isNaN_ofInt (n : Int) : (Float.ofInt n).isNaN = false := by
  cases n with
  | ofNat n => exact isNaN_ofNat n
  | negSucc n =>
    have h : (Float.ofNat n.succ).toModel.unpack.isNaN = false := isNaN_ofNat n.succ
    refine isNaN_unpack_pack ?_
    cases hx : (Float.ofNat n.succ).toModel.unpack with
    | notANumber => rw [hx] at h; cases h
    | infinity sign => rfl
    | zero sign => rfl
    | finite sign m q hm => rfl

end ModelFormula.Double
