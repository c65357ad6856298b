import Mathlib.Algebra.Ring.Nat
import Mathlib.Order.Lattice

/-!
# Whole numbers as floats

A whole number of a machine word that is rounded to a float stays finite.
Rounding moves the exponent up to where the significand fits, and the exponent
of a word ends far below the one that stands for infinity.
-/

namespace Polystore.Numeral

open Float.Model
open Float.Model.UnpackedFloat (ExtendedMantissa Accuracy Sign)

theorem mantissa_shiftRight_le (extended : ExtendedMantissa) (amount : Nat) :
    (extended >>> amount).mantissa ≤ extended.mantissa := by
  induction amount with
  | zero => exact Nat.le_refl _
  | succ amount induction =>
      have halved : (extended >>> (amount + 1)).mantissa =
          (extended >>> amount).mantissa / 2 := rfl
      rw [halved]
      exact (Nat.div_le_self _ _).trans induction

theorem roundedMantissa_le (extended : ExtendedMantissa) :
    extended.roundedMantissa ≤ extended.mantissa + 1 := by
  obtain ⟨mantissa, roundBit, stickyBit⟩ := extended
  cases roundBit with
  | false => cases stickyBit <;> exact Nat.le_succ mantissa
  | true =>
      cases stickyBit with
      | false =>
          show mantissa + mantissa % 2 ≤ mantissa + 1
          omega
      | true => exact Nat.le_refl _

theorem mantissa_ofMantissaAndAccuracy (mantissa : Nat) (accuracy : Accuracy) :
    (ExtendedMantissa.ofMantissaAndAccuracy mantissa accuracy).mantissa =
      mantissa := by
  cases accuracy with
  | exact => rfl
  | inexact side => cases side <;> rfl

theorem mantissa_shiftToTargetExponent_le (spec : Format) (mantissa : Nat)
    (exponent : Int) (accuracy : Accuracy) :
    (UnpackedFloat.shiftToTargetExponent spec mantissa exponent
      accuracy).1.mantissa ≤ mantissa := by
  have shifted := mantissa_shiftRight_le
    (.ofMantissaAndAccuracy mantissa accuracy)
    (spec.targetExponent (totalExponent mantissa exponent) - exponent).toNat
  rw [mantissa_ofMantissaAndAccuracy] at shifted
  exact shifted

/-- The exponent only rises, and no further than the significand needs. -/
theorem exponent_shiftToTargetExponent_le {mantissa : Nat} {exponent : Int}
    (accuracy : Accuracy) {bound : Int} (above : exponent ≤ bound)
    (fits : (mantissa.log2 : Int) + exponent ≤ bound + 52)
    (notTiny : -1074 ≤ bound) :
    (UnpackedFloat.shiftToTargetExponent .binary64 mantissa exponent
      accuracy).2 ≤ bound := by
  have target : Format.targetExponent .binary64
      (totalExponent mantissa exponent) ≤ bound := by
    apply max_le
    · have bits : (Format.mantissaBits .binary64 : Int) = 53 := rfl
      rw [bits, totalExponent]
      omega
    · exact notTiny
  show exponent + ((Format.targetExponent .binary64
    (totalExponent mantissa exponent) - exponent).toNat : Int) ≤ bound
  omega

/-- The number is below infinity when it is packed: the greatest floats have
the exponent 971. -/
inductive IsPackable : UnpackedFloat → Prop where
  | zero (sign : Sign) : IsPackable (.zero sign)
  | finite (sign : Sign) {mantissa : Nat} {exponent : Int}
      (positive : 0 < mantissa) :
      exponent ≤ 971 →
      IsPackable (.finite sign mantissa exponent positive)

theorem isFinite_unpack {bits : BitVec Format.binary64.numBits}
    (notSpecial : UnpackedFloat.unpackExponent bits ≠ -1#_) :
    (UnpackedFloat.unpack .binary64 bits).isFinite = true := by
  unfold UnpackedFloat.unpack
  rw [if_neg notSpecial]
  by_cases isSmall : UnpackedFloat.unpackExponent bits = 0#_
  · rw [if_pos isSmall]
    by_cases isZero : UnpackedFloat.unpackMantissa bits = 0#_
    · rw [dif_pos isZero]
      rfl
    · rw [dif_neg isZero]
      rfl
  · rw [if_neg isSmall]
    rfl

theorem isFinite_unpack_pack {number : UnpackedFloat}
    (packable : IsPackable number) :
    (UnpackedFloat.unpack .binary64
      (UnpackedFloat.pack .binary64 number)).isFinite = true := by
  apply isFinite_unpack
  cases packable with
  | zero sign =>
      unfold UnpackedFloat.pack UnpackedFloat.packedZero
      rw [UnpackedFloat.unpackExponent_packComponents]
      decide
  | @finite sign mantissa exponent positive small =>
      have bias : (Format.exponentBias .binary64 : Int) +
          (52 : Nat) = 1075 := rfl
      let biased := (exponent + Format.exponentBias .binary64 +
        (52 : Nat)).toNat
      have inRange : biased ≤ 2046 := by omega
      have notInfinite : ¬2 ^ 11 ≤ biased + 1 := by omega
      unfold UnpackedFloat.pack
      dsimp only
      rw [if_neg notInfinite]
      split
      · rw [UnpackedFloat.unpackExponent_packComponents]
        intro isLast
        have same := congrArg BitVec.toNat isLast
        rw [BitVec.toNat_ofNat, Nat.mod_eq_of_lt (by omega)] at same
        have last : (-1#11).toNat = 2047 := by decide
        omega
      · rw [UnpackedFloat.unpackExponent_packComponents]
        decide

theorem log2_le_of_lt {number bits : Nat} (small : number < 2 ^ (bits + 1)) :
    number.log2 ≤ bits := by
  by_cases isZero : number = 0
  · rw [isZero, Nat.log2_zero]
    exact Nat.zero_le bits
  · exact Nat.le_of_lt_succ ((Nat.log2_lt isZero).mpr small)

theorem isPackable_roundWithAccuracy (sign : Sign) {mantissa : Nat}
    {exponent : Int} (accuracy : Accuracy) (short : mantissa < 2 ^ 200)
    (notAbove : exponent ≤ 0) :
    IsPackable (UnpackedFloat.roundWithAccuracy .binary64 sign mantissa
      exponent accuracy) := by
  let first := UnpackedFloat.shiftToTargetExponent .binary64 mantissa exponent
    accuracy
  let rounded := first.1.roundedMantissa
  let second := UnpackedFloat.shiftToTargetExponent .binary64 rounded first.2
    .exact
  have bits : mantissa.log2 ≤ 199 := log2_le_of_lt short
  have firstExponent : first.2 ≤ 147 :=
    exponent_shiftToTargetExponent_le accuracy (by omega) (by omega) (by omega)
  -- Rounding up may lengthen the significand, hence the second shift.
  have notLonger : rounded ≤ mantissa + 1 :=
    (roundedMantissa_le first.1).trans (Nat.succ_le_succ
      (mantissa_shiftToTargetExponent_le .binary64 mantissa exponent accuracy))
  have roundedBits : rounded.log2 ≤ 200 := log2_le_of_lt (by omega)
  have secondExponent : second.2 ≤ 295 :=
    exponent_shiftToTargetExponent_le .exact (by omega) (by omega) (by omega)
  have isRounded : UnpackedFloat.roundWithAccuracy .binary64 sign mantissa
      exponent accuracy =
    if isZero : second.1.mantissa = 0 then .zero sign
    else .finite sign second.1.mantissa second.2
      (Nat.pos_of_ne_zero isZero) := rfl
  rw [isRounded]
  by_cases isZero : second.1.mantissa = 0
  · rw [dif_pos isZero]
    exact .zero sign
  · rw [dif_neg isZero]
    exact .finite sign _ (by omega)

theorem mul_finite {left right : Nat} {leftExponent rightExponent : Int}
    (sign other : Sign) (leftPositive : 0 < left)
    (rightPositive : 0 < right) :
    UnpackedFloat.mul .binary64
        (.finite sign left leftExponent leftPositive)
        (.finite other right rightExponent rightPositive) =
      UnpackedFloat.roundWithAccuracy .binary64 (sign * other) (left * right)
        (leftExponent + rightExponent) .exact :=
  rfl

theorem isPackable_ofScientific {number : Nat} (word : number < 2 ^ 64) :
    IsPackable (UnpackedFloat.ofScientific .binary64 number 0) := by
  unfold UnpackedFloat.ofScientific
  by_cases isZero : number = 0
  · rw [dif_pos isZero]
    exact .zero _
  · rw [dif_neg isZero]
    have short : number <<< Format.mantissaBits .binary64 *
        10 ^ (0 : Int).toNat < 2 ^ 200 := by
      have bits : Format.mantissaBits .binary64 = 53 := rfl
      rw [bits, Nat.shiftLeft_eq, Int.toNat_zero, Nat.pow_zero, Nat.mul_one]
      omega
    have notLarge : ¬(0 : Int) > 2 ^ Format.exponentBits .binary64 := by
      decide
    have notTiny : ¬(0 : Int) <
        -((2 ^ Format.exponentBits .binary64 : Int) + number.log2) := by
      have range : (2 ^ Format.exponentBits .binary64 : Int) = 2048 := by
        decide
      rw [range]
      omega
    rw [if_neg notLarge, if_neg notTiny, if_pos (Int.le_refl 0), mul_finite]
    exact isPackable_roundWithAccuracy _ _ short (by decide)

/-- Whole numbers of a machine word that are rounded stay finite. -/
theorem isFinite_ofInt {number : Nat} (rounded : 2 ^ 53 ≤ number)
    (word : number < 2 ^ 64) :
    (Float.ofInt (number : Int)).isFinite = true := by
  have isModel : Float.ofInt (number : Int) =
      .ofModel (Float.Model.ofScientific number 0) := by
    show Float.ofScientific number false 0 = _
    rw [Float.ofScientific, dif_neg]
    · rfl
    · exact fun exact => absurd exact.1 (Nat.not_lt_of_le rounded)
  rw [isModel]
  exact isFinite_unpack_pack (isPackable_ofScientific word)

end Polystore.Numeral
