import Mathlib.Algebra.Order.Field.Power
import Mathlib.Tactic.FieldSimp
import Mathlib.Tactic.Positivity
import Polystore.Proofs.Numeral.Nearest
import Polystore.Proofs.Numeral.Ordering

/-!
# The values of floats for whole numbers

The float for a whole number of a machine word has the value of the number
rounded to 53 places, so these floats are ordered as the rounded numbers are.
-/

namespace Polystore.Numeral

open Float.Model
open Float.Model.UnpackedFloat (ExtendedMantissa Accuracy Sign)

/-- The value of a number; infinity and what is no number count as zero. -/
def amount : UnpackedFloat → ℚ
  | .finite sign significand exponent _ =>
    sign.apply significand * 2 ^ exponent
  | .zero _ | .infinity _ | .notANumber => 0

/-- The significand of a number other than zero has all its 53 places. -/
inductive IsNormal : UnpackedFloat → Prop where
  | zero (sign : Sign) : IsNormal (.zero sign)
  | finite (sign : Sign) {significand : ℕ} {exponent : ℤ}
      (positive : 0 < significand) :
      2 ^ 52 ≤ significand → significand < 2 ^ 53 →
      -1074 ≤ exponent → exponent ≤ 971 →
      IsNormal (.finite sign significand exponent positive)

theorem mul_two_zpow_lt {left right : ℕ} {leftExponent rightExponent : ℤ}
    (short : left < 2 ^ 53) (long : 2 ^ 52 ≤ right)
    (below : leftExponent < rightExponent) :
    (left : ℚ) * 2 ^ leftExponent < right * 2 ^ rightExponent := by
  have shortRational : (left : ℚ) < 2 ^ (53 : ℤ) := by exact_mod_cast short
  have longRational : (2 : ℚ) ^ (52 : ℤ) ≤ right := by exact_mod_cast long
  calc (left : ℚ) * 2 ^ leftExponent
      < 2 ^ (53 : ℤ) * 2 ^ leftExponent := by gcongr
    _ = 2 ^ (53 + leftExponent) := (zpow_add₀ two_ne_zero _ _).symm
    _ ≤ 2 ^ (52 + rightExponent) :=
        zpow_le_zpow_right₀ one_le_two (by omega)
    _ = 2 ^ (52 : ℤ) * 2 ^ rightExponent := zpow_add₀ two_ne_zero _ _
    _ ≤ right * 2 ^ rightExponent := by gcongr

theorem magnitude_lt {left right : ℕ} {leftExponent rightExponent : ℤ}
    (short : left < 2 ^ 53) (long : 2 ^ 52 ≤ right)
    (below : leftExponent < rightExponent ∨
      leftExponent = rightExponent ∧ left < right) :
    (left : ℚ) * 2 ^ leftExponent < right * 2 ^ rightExponent := by
  rcases below with lower | ⟨rfl, less⟩
  · exact mul_two_zpow_lt short long lower
  · have lessRational : (left : ℚ) < right := by exact_mod_cast less
    gcongr

theorem magnitude_pos {significand : ℕ} (positive : 0 < significand)
    (exponent : ℤ) : (0 : ℚ) < significand * 2 ^ exponent := by
  have rational : (0 : ℚ) < significand := by exact_mod_cast positive
  positivity

theorem amount_positive {significand : ℕ} {exponent : ℤ}
    (positive : 0 < significand) :
    amount (.finite .positive significand exponent positive) =
      significand * 2 ^ exponent := by
  show ((significand : ℤ) : ℚ) * 2 ^ exponent = significand * 2 ^ exponent
  rw [Int.cast_natCast]

theorem amount_negative {significand : ℕ} {exponent : ℤ}
    (positive : 0 < significand) :
    amount (.finite .negative significand exponent positive) =
      -(significand * 2 ^ exponent) := by
  show ((-significand : ℤ) : ℚ) * 2 ^ exponent =
    -(significand * 2 ^ exponent)
  rw [Int.cast_neg, Int.cast_natCast, neg_mul]

/-- Normal numbers are placed in the order of their values. -/
theorem amount_lt_of_placeOf_lt {left right : UnpackedFloat}
    (leftNormal : IsNormal left) (rightNormal : IsNormal right)
    (below : placeOf left < placeOf right) : amount left < amount right := by
  cases leftNormal with
  | zero sign =>
      cases rightNormal with
      | zero other => exact absurd below (lt_irrefl _)
      | finite other positive long short =>
          cases other with
          | negative =>
              rw [placeOf_zero, placeOf_negative] at below
              simp [Prod.Lex.toLex_lt_toLex] at below
          | positive =>
              rw [amount_positive]
              exact magnitude_pos positive _
  | finite sign leftPositive leftLong leftShort =>
      cases rightNormal with
      | zero other =>
          cases sign with
          | negative =>
              rw [amount_negative]
              exact neg_neg_of_pos (magnitude_pos leftPositive _)
          | positive =>
              rw [placeOf_positive, placeOf_zero] at below
              simp [Prod.Lex.toLex_lt_toLex] at below
      | finite other rightPositive rightLong rightShort =>
          cases sign with
          | negative =>
              cases other with
              | negative =>
                  rw [amount_negative, amount_negative, neg_lt_neg_iff]
                  apply magnitude_lt rightShort leftLong
                  rw [placeOf_negative, placeOf_negative] at below
                  simp only [Prod.Lex.toLex_lt_toLex] at below
                  omega
              | positive =>
                  rw [amount_negative, amount_positive]
                  exact (neg_neg_of_pos (magnitude_pos leftPositive _)).trans
                    (magnitude_pos rightPositive _)
          | positive =>
              cases other with
              | negative =>
                  rw [placeOf_positive, placeOf_negative] at below
                  simp [Prod.Lex.toLex_lt_toLex] at below
              | positive =>
                  rw [amount_positive, amount_positive]
                  apply magnitude_lt leftShort rightLong
                  rw [placeOf_positive, placeOf_positive] at below
                  simp only [Prod.Lex.toLex_lt_toLex] at below
                  omega

theorem amount_eq_of_placeOf_eq {left right : UnpackedFloat}
    (leftNormal : IsNormal left) (rightNormal : IsNormal right)
    (same : placeOf left = placeOf right) : amount left = amount right := by
  cases leftNormal with
  | zero sign =>
      cases rightNormal with
      | zero other => rfl
      | finite other =>
          cases other with
          | negative =>
              rw [placeOf_zero, placeOf_negative] at same
              simp at same
          | positive =>
              rw [placeOf_zero, placeOf_positive] at same
              simp at same
  | finite sign =>
      cases rightNormal with
      | zero other =>
          cases sign with
          | negative =>
              rw [placeOf_zero, placeOf_negative] at same
              simp at same
          | positive =>
              rw [placeOf_zero, placeOf_positive] at same
              simp at same
      | finite other =>
          cases sign with
          | negative =>
              cases other with
              | negative =>
                  rw [placeOf_negative, placeOf_negative] at same
                  simp only [toLex_inj, Prod.mk.injEq, neg_inj, Nat.cast_inj,
                    true_and] at same
                  rw [amount_negative, amount_negative, same.1, same.2]
              | positive =>
                  rw [placeOf_negative, placeOf_positive] at same
                  simp at same
          | positive =>
              cases other with
              | negative =>
                  rw [placeOf_positive, placeOf_negative] at same
                  simp at same
              | positive =>
                  rw [placeOf_positive, placeOf_positive] at same
                  simp only [toLex_inj, Prod.mk.injEq, Nat.cast_inj, true_and]
                    at same
                  rw [amount_positive, amount_positive, same.1, same.2]

def value (float : Float) : ℚ :=
  amount float.toModel.unpack

section Values

variable {left right : Float} (leftNormal : IsNormal left.toModel.unpack)
  (rightNormal : IsNormal right.toModel.unpack)

theorem isNaN_of_isNormal {number : UnpackedFloat} (normal : IsNormal number) :
    number.isNaN = false := by
  cases normal with
  | zero sign => rfl
  | finite sign => rfl

include leftNormal rightNormal

theorem lt_iff_value_lt : left < right ↔ value left < value right := by
  rw [lt_iff_place_lt (isNaN_of_isNormal leftNormal)
    (isNaN_of_isNormal rightNormal)]
  constructor
  · exact amount_lt_of_placeOf_lt leftNormal rightNormal
  · intro below
    rcases lt_trichotomy (place left) (place right) with less | same | more
    · exact less
    · exact absurd below
        (amount_eq_of_placeOf_eq leftNormal rightNormal same).not_lt
    · exact absurd below
        (amount_lt_of_placeOf_lt rightNormal leftNormal more).not_gt

theorem beq_iff_value_eq : (left == right) = true ↔ value left = value right := by
  rw [beq_iff_place_eq (isNaN_of_isNormal leftNormal)
    (isNaN_of_isNormal rightNormal)]
  constructor
  · exact amount_eq_of_placeOf_eq leftNormal rightNormal
  · intro same
    rcases lt_trichotomy (place left) (place right) with less | same | more
    · exact absurd same
        (amount_lt_of_placeOf_lt leftNormal rightNormal less).ne
    · exact same
    · exact absurd same
        (amount_lt_of_placeOf_lt rightNormal leftNormal more).ne'

end Values

/-- The places that are shifted out leave the last of them behind, and whether
there is anything else in them. -/
theorem shiftRight_succ (significand amount : ℕ) :
    (⟨significand, false, false⟩ : ExtendedMantissa) >>> (amount + 1) =
      ⟨significand / 2 ^ (amount + 1), significand / 2 ^ amount % 2 != 0,
        significand % 2 ^ amount != 0⟩ := by
  induction amount with
  | zero =>
      show ExtendedMantissa.shiftRightOne ⟨significand, false, false⟩ = _
      simp [ExtendedMantissa.shiftRightOne, Nat.mod_one]
  | succ amount induction =>
      show ExtendedMantissa.shiftRightOne
        ((⟨significand, false, false⟩ : ExtendedMantissa) >>> (amount + 1)) = _
      have rest : significand % 2 ^ (amount + 1) =
          significand % 2 ^ amount +
            2 ^ amount * (significand / 2 ^ amount % 2) :=
        Nat.mod_pow_succ
      have halved : significand / 2 ^ (amount + 1) / 2 =
          significand / 2 ^ (amount + 1 + 1) := by
        rw [Nat.div_div_eq_div_mul, ← Nat.pow_succ]
      rw [induction, ExtendedMantissa.shiftRightOne, halved, rest]
      congr 1
      rcases Nat.mod_two_eq_zero_or_one (significand / 2 ^ amount) with
        clear | set
      · simp [clear]
      · simp [set]

theorem roundedMantissa_shiftRight (significand amount : ℕ) :
    ((⟨significand, false, false⟩ : ExtendedMantissa) >>>
        amount).roundedMantissa =
      roundHalfEven significand (2 ^ amount) := by
  cases amount with
  | zero =>
      have exact := roundHalfEven_multiple Nat.one_pos significand
      rw [Nat.mul_one] at exact
      exact exact.symm
  | succ amount =>
      have rest : significand % 2 ^ (amount + 1) =
          significand % 2 ^ amount +
            2 ^ amount * (significand / 2 ^ amount % 2) :=
        Nat.mod_pow_succ
      have double : 2 ^ (amount + 1) = 2 * 2 ^ amount := by ring
      have small : significand % 2 ^ amount < 2 ^ amount :=
        Nat.mod_lt _ (Nat.two_pow_pos _)
      have rounded := roundHalfEven_cases significand (2 ^ (amount + 1))
      rw [rest] at rounded
      rw [shiftRight_succ]
      rcases Nat.mod_two_eq_zero_or_one (significand / 2 ^ amount) with
        clear | set
      · rw [clear, Nat.mul_zero, Nat.add_zero, double] at rounded
        have down : roundHalfEven significand (2 * 2 ^ amount) =
            significand / (2 * 2 ^ amount) := by omega
        rw [double, down, clear]
        cases significand % 2 ^ amount != 0 <;> rfl
      · rw [set, Nat.mul_one, double] at rounded
        rcases Nat.eq_zero_or_pos (significand % 2 ^ amount) with half | more
        · have even : roundHalfEven significand (2 * 2 ^ amount) =
              significand / (2 * 2 ^ amount) +
                significand / (2 * 2 ^ amount) % 2 := by omega
          rw [double, even, set, half]
          rfl
        · have up : roundHalfEven significand (2 * 2 ^ amount) =
              significand / (2 * 2 ^ amount) + 1 := by omega
          have sticky : (significand % 2 ^ amount != 0) = true := by
            simpa using more.ne'
          rw [double, up, set, sticky]
          rfl

theorem shiftToTargetExponent_eq {significand : ℕ} (exponent : ℤ)
    (long : 52 ≤ significand.log2)
    (notTiny : -1074 ≤ exponent + (significand.log2 - 52 : ℕ)) :
    UnpackedFloat.shiftToTargetExponent .binary64 significand exponent .exact =
      ((⟨significand, false, false⟩ : ExtendedMantissa) >>>
          (significand.log2 - 52),
        exponent + (significand.log2 - 52 : ℕ)) := by
  have bits : (Format.mantissaBits .binary64 : ℤ) = 53 := rfl
  have least : Format.minExponent .binary64 = -1074 := by decide
  have target : (Format.targetExponent .binary64
      (totalExponent significand exponent) - exponent).toNat =
        significand.log2 - 52 := by
    rw [Format.targetExponent, totalExponent, bits, least]
    omega
  show ((⟨significand, false, false⟩ : ExtendedMantissa) >>>
      (Format.targetExponent .binary64
        (totalExponent significand exponent) - exponent).toNat,
    exponent + ((Format.targetExponent .binary64
      (totalExponent significand exponent) - exponent).toNat : ℤ)) = _
  rw [target]

theorem roundWithAccuracy_eq_finite (sign : Sign) {significand : ℕ}
    {exponent : ℤ} {first second : ExtendedMantissa × ℤ}
    (isFirst : UnpackedFloat.shiftToTargetExponent .binary64 significand
      exponent .exact = first)
    (isSecond : UnpackedFloat.shiftToTargetExponent .binary64
      first.1.roundedMantissa first.2 .exact = second)
    (positive : 0 < second.1.mantissa) :
    UnpackedFloat.roundWithAccuracy .binary64 sign significand exponent
        .exact =
      .finite sign second.1.mantissa second.2 positive := by
  subst isFirst isSecond
  exact dif_neg positive.ne'

/-- A significand that rounding has made longer by one place is shifted once
more, and its value stays. -/
theorem exists_second_shift {rounded : ℕ} {exponent : ℤ}
    (atLeast : 2 ^ 52 ≤ rounded) (atMost : rounded ≤ 2 ^ 53)
    (notTiny : -1074 ≤ exponent) :
    ∃ second : ExtendedMantissa × ℤ,
      UnpackedFloat.shiftToTargetExponent .binary64 rounded exponent .exact =
        second ∧
      2 ^ 52 ≤ second.1.mantissa ∧ second.1.mantissa < 2 ^ 53 ∧
      exponent ≤ second.2 ∧ second.2 ≤ exponent + 1 ∧
      (second.1.mantissa : ℚ) * 2 ^ second.2 = rounded * 2 ^ exponent := by
  refine ⟨_, rfl, ?_⟩
  rcases Nat.lt_or_eq_of_le atMost with short | isPower
  · have places : rounded.log2 = 52 := log2_eq_of_bounds atLeast short
    have second := shiftToTargetExponent_eq exponent places.ge (by omega)
    rw [places] at second
    rw [second]
    have same : exponent + ((52 - 52 : ℕ) : ℤ) = exponent := by simp
    rw [same]
    exact ⟨atLeast, short, le_rfl, by omega, rfl⟩
  · have places : rounded.log2 = 53 := by
      rw [isPower]
      exact Nat.log2_two_pow
    have long : 52 ≤ rounded.log2 := by omega
    have second := shiftToTargetExponent_eq exponent long (by omega)
    rw [places, isPower] at second
    rw [isPower, second]
    have next : exponent + ((53 - 52 : ℕ) : ℤ) = exponent + 1 := by simp
    have halved : ((⟨2 ^ 53, false, false⟩ : ExtendedMantissa) >>>
        (53 - 52)).mantissa = 2 ^ 52 := rfl
    simp only [next, halved]
    refine ⟨le_rfl, by decide, by omega, by omega, ?_⟩
    rw [zpow_add_one₀ two_ne_zero]
    push_cast
    ring

/-- A significand of enough places is rounded to the nearest multiple of what
its unit is worth. -/
theorem roundWithAccuracy_exact (sign : Sign) {significand : ℕ} (exponent : ℤ)
    (long : 2 ^ 52 ≤ significand)
    (notTiny : -1074 ≤ exponent + (significand.log2 - 52 : ℕ))
    (notHuge : exponent + (significand.log2 - 52 : ℕ) < 971) :
    ∃ rounded, ∃ roundedExponent : ℤ, ∃ positive,
      UnpackedFloat.roundWithAccuracy .binary64 sign significand exponent
          .exact =
        .finite sign rounded roundedExponent positive ∧
      IsNormal (.finite sign rounded roundedExponent positive) ∧
      roundedExponent ≤ exponent + (significand.log2 - 52 : ℕ) + 1 ∧
      (rounded : ℚ) * 2 ^ roundedExponent =
        nearestTo significand * 2 ^ exponent := by
  have nonzero : significand ≠ 0 := by omega
  have places : 52 ≤ significand.log2 := (Nat.le_log2 nonzero).mpr long
  have isFirst := shiftToTargetExponent_eq exponent places notTiny
  have isRounded := roundedMantissa_shiftRight significand
    (significand.log2 - 52)
  obtain ⟨atLeast, atMost⟩ := roundHalfEven_unitOf_bounds nonzero places
  obtain ⟨second, isSecond, long, short, lowest, highest, sameValue⟩ :=
    exists_second_shift atLeast atMost notTiny
  have positive : 0 < second.1.mantissa := by omega
  refine ⟨_, _, positive, roundWithAccuracy_eq_finite sign isFirst ?_ positive,
    .finite sign positive long short (by omega) (by omega), highest, ?_⟩
  · rw [isRounded]
    exact isSecond
  · rw [sameValue, nearestTo, zpow_add₀ two_ne_zero, unitOf]
    push_cast
    rw [zpow_natCast]
    ring

theorem sign_packComponents (sign : Sign) (exponent : BitVec 11)
    (significand : BitVec 52) :
    Sign.ofBitVec (UnpackedFloat.unpackSign (UnpackedFloat.packComponents
      .binary64 sign exponent significand)) = sign := by
  unfold UnpackedFloat.unpackSign UnpackedFloat.packComponents
  rw [BitVec.extractLsb, BitVec.extractLsb'_append_eq_of_le (by decide),
    BitVec.extractLsb'_append_eq_of_le (by decide)]
  cases sign with
  | negative => rfl
  | positive => rfl

/-- The first place of a significand is left out and put in front again. -/
theorem toNat_one_append {significand : ℕ} (long : 2 ^ 52 ≤ significand)
    (short : significand < 2 ^ 53) :
    (1#1 ++ BitVec.ofNat 52 significand).toNat = significand := by
  have rest : significand % 2 ^ 52 < 2 ^ 52 :=
    Nat.mod_lt _ (Nat.two_pow_pos 52)
  rw [BitVec.toNat_append, BitVec.toNat_ofNat significand,
    ← Nat.shiftLeft_add_eq_or_of_lt rest, Nat.shiftLeft_eq]
  have one : (1#1).toNat = 1 := rfl
  omega

theorem unpack_packComponents (sign : Sign) {significand biased : ℕ}
    (long : 2 ^ 52 ≤ significand) (short : significand < 2 ^ 53)
    (least : 0 < biased) (greatest : biased < 2047) :
    UnpackedFloat.unpack .binary64 (UnpackedFloat.packComponents .binary64
        sign (BitVec.ofNat 11 biased) (BitVec.ofNat 52 significand)) =
      .finite sign significand (biased - 1075)
        ((Nat.two_pow_pos 52).trans_le long) := by
  have exponentValue : (BitVec.ofNat 11 biased).toNat = biased := by
    rw [BitVec.toNat_ofNat, Nat.mod_eq_of_lt (by omega)]
  have notSpecial : BitVec.ofNat 11 biased ≠ -1#11 := by
    intro same
    have isLast := congrArg BitVec.toNat same
    have last : (-1#11).toNat = 2047 := by decide
    omega
  have notSubnormal : BitVec.ofNat 11 biased ≠ 0#11 := by
    intro same
    have isFirst := congrArg BitVec.toNat same
    have first : (0#11).toNat = 0 := rfl
    omega
  unfold UnpackedFloat.unpack
  rw [UnpackedFloat.unpackExponent_packComponents, if_neg notSpecial,
    if_neg notSubnormal]
  congr 1
  · exact sign_packComponents sign _ _
  · rw [UnpackedFloat.unpackMantissa_packComponents]
    exact toNat_one_append long short
  · rw [exponentValue]
    rfl

theorem unpack_pack {number : UnpackedFloat} (normal : IsNormal number) :
    (Float.Model.pack number).unpack = number := by
  show UnpackedFloat.unpack .binary64 (UnpackedFloat.pack .binary64 number) =
    number
  cases normal with
  | zero sign => cases sign <;> rfl
  | @finite sign significand exponent positive long short notTiny notHuge =>
      have places : significand.log2 = 52 := log2_eq_of_bounds long short
      have bias : (Format.exponentBias .binary64 : ℤ) + (52 : ℕ) = 1075 := rfl
      obtain ⟨biased, isBiased⟩ : ∃ biased : ℕ,
          exponent + Format.exponentBias .binary64 + (52 : ℕ) = biased :=
        ⟨(exponent + 1075).toNat, by omega⟩
      have notInfinite : ¬2 ^ 11 ≤ biased + 1 := by omega
      have packed : UnpackedFloat.pack .binary64
            (.finite sign significand exponent positive) =
          UnpackedFloat.packComponents .binary64 sign (BitVec.ofNat 11 biased)
            (BitVec.ofNat 52 significand) := by
        unfold UnpackedFloat.pack
        dsimp only
        rw [isBiased, Int.toNat_natCast, if_neg notInfinite, places]
        rfl
      rw [packed, unpack_packComponents sign long short (by omega) (by omega)]
      congr 1
      omega

/-- A normal number with a certain value. -/
structure StandsFor (number : UnpackedFloat) (value : ℚ) : Prop where
  normal : IsNormal number
  amount : amount number = value

theorem StandsFor.neg {number : UnpackedFloat} {value : ℚ}
    (stands : StandsFor number value) : StandsFor number.neg (-value) := by
  obtain ⟨normal, rfl⟩ := stands
  cases normal with
  | zero sign => exact ⟨.zero (-sign), neg_zero.symm⟩
  | finite sign positive long short notTiny notHuge =>
      refine ⟨.finite (-sign) positive long short notTiny notHuge, ?_⟩
      cases sign with
      | negative =>
          rw [amount_negative, neg_neg]
          exact amount_positive positive
      | positive =>
          rw [amount_positive]
          exact amount_negative positive

theorem round_scaled {number : ℕ} (places : ℕ) (nonzero : number ≠ 0)
    (word : number < 2 ^ 64) (long : 2 ^ 52 ≤ number * 2 ^ places)
    (moderate : places ≤ 200) :
    ∃ significand, ∃ exponent : ℤ, ∃ positive,
      UnpackedFloat.roundWithAccuracy .binary64 .positive
          (number * 2 ^ places) (-places) .exact =
        .finite .positive significand exponent positive ∧
      StandsFor (.finite .positive significand exponent positive)
        (nearestTo number) ∧ exponent ≤ 12 := by
  have bits : number.log2 ≤ 63 := log2_le_of_lt word
  have longer := log2_mul_two_pow nonzero places
  obtain ⟨significand, exponent, positive, rounded, normal, small, isValue⟩ :=
    roundWithAccuracy_exact .positive (-places) long (by omega) (by omega)
  refine ⟨significand, exponent, positive, rounded, ⟨normal, ?_⟩, by omega⟩
  rw [amount_positive, isValue, nearestTo_mul_two_pow nonzero, zpow_neg,
    zpow_natCast]
  push_cast
  field_simp

/-- A machine word is brought to 53 places before it is rounded. -/
theorem ofNat_eq_round {number : ℕ} (nonzero : number ≠ 0)
    (small : number < 2 ^ 53) :
    UnpackedFloat.ofNat .binary64 number =
      UnpackedFloat.roundWithAccuracy .binary64 .positive
        (number * 2 ^ (52 - number.log2)) (-(52 - number.log2 : ℕ)) .exact := by
  have isPositive : compare (number : ℤ) 0 = .gt := by
    rw [compare_gt_iff_gt]
    omega
  have bits : (Format.mantissaBits .binary64 : ℤ) = 53 := rfl
  have least : Format.minExponent .binary64 = -1074 := by decide
  have places : number.log2 ≤ 52 := log2_le_of_lt small
  have amount : (0 - Format.targetExponent .binary64
      (totalExponent number 0)).toNat = 52 - number.log2 := by
    rw [Format.targetExponent, totalExponent, bits, least]
    omega
  have isRound : UnpackedFloat.ofNat .binary64 number =
      UnpackedFloat.round .binary64 .positive number 0 := by
    unfold UnpackedFloat.ofNat UnpackedFloat.ofInt UnpackedFloat.normalize
    rw [isPositive]
    rfl
  rw [isRound]
  show UnpackedFloat.roundWithAccuracy .binary64 .positive
    (number <<< (0 - Format.targetExponent .binary64
      (totalExponent number 0)).toNat)
    (0 - ((0 - Format.targetExponent .binary64
      (totalExponent number 0)).toNat : ℤ)) .exact = _
  rw [amount, Nat.shiftLeft_eq, Int.zero_sub]

theorem StandsFor.mul_one {significand : ℕ} {exponent : ℤ} {positive}
    {value : ℚ}
    (stands : StandsFor (.finite .positive significand exponent positive) value)
    (small : exponent ≤ 12) :
    ∃ product, ∃ productExponent : ℤ, ∃ productPositive,
      UnpackedFloat.mul .binary64
          (.finite .positive significand exponent positive)
          (.finite .positive (2 ^ 52) (-52) (Nat.two_pow_pos 52)) =
        .finite .positive product productExponent productPositive ∧
      StandsFor (.finite .positive product productExponent productPositive)
        value := by
  obtain ⟨normal, rfl⟩ := stands
  cases normal with
  | finite _ _ long short notTiny notHuge =>
      have longer := log2_mul_two_pow positive.ne' 52
      have places : significand.log2 = 52 := log2_eq_of_bounds long short
      have longEnough : 2 ^ 52 ≤ significand * 2 ^ 52 := by omega
      obtain ⟨product, productExponent, productPositive, rounded, normal, -,
          isValue⟩ :=
        roundWithAccuracy_exact .positive (exponent + -52) longEnough (by omega)
          (by omega)
      refine ⟨product, productExponent, productPositive, rounded, normal, ?_⟩
      rw [amount_positive, amount_positive, isValue,
        nearestTo_mul_two_pow positive.ne', nearestTo_of_lt short,
        zpow_add₀ two_ne_zero]
      push_cast
      field_simp
      norm_num

theorem two_pow_le_mul {number places bits : ℕ} (nonzero : number ≠ 0)
    (enough : bits ≤ number.log2 + places) :
    2 ^ bits ≤ number * 2 ^ places :=
  calc 2 ^ bits ≤ 2 ^ (number.log2 + places) :=
        Nat.pow_le_pow_right Nat.two_pos enough
    _ = 2 ^ number.log2 * 2 ^ places := Nat.pow_add ..
    _ ≤ number * 2 ^ places :=
        Nat.mul_le_mul_right _ (Nat.log2_self_le nonzero)

/-- A number of at most 53 places is converted and multiplied by one. -/
theorem standsFor_ofNat_of_lt {number : ℕ} (nonzero : number ≠ 0)
    (small : number < 2 ^ 53) :
    StandsFor (Float.ofNat number).toModel.unpack (nearestTo number) := by
  have word : number.toUInt64.toNat = number :=
    UInt64.toNat_ofNat_of_lt' (small.trans (by decide))
  have isProduct : Float.ofNat number =
      number.toUInt64.toFloat * Float.ofBits 0x3FF0000000000000 := by
    show Float.ofScientific number false 0 = _
    rw [Float.ofScientific, dif_pos ⟨small, Nat.zero_le 22⟩]
    rfl
  have isModel : (Float.ofNat number).toModel.unpack =
      (Float.Model.pack (UnpackedFloat.mul .binary64
        (Float.Model.pack
          (UnpackedFloat.ofNat .binary64 number.toUInt64.toNat)).unpack
        (.finite .positive (2 ^ 52) (-52) (Nat.two_pow_pos 52)))).unpack := by
    rw [isProduct]
    rfl
  obtain ⟨significand, exponent, positive, rounded, stands, moderate⟩ :=
    round_scaled (52 - number.log2) nonzero
      (small.trans (by decide)) (two_pow_le_mul nonzero (by omega)) (by omega)
  obtain ⟨product, productExponent, productPositive, multiplied,
    productStands⟩ := stands.mul_one moderate
  rw [isModel, word, ofNat_eq_round nonzero small, rounded,
    unpack_pack stands.normal, multiplied, unpack_pack productStands.normal]
  exact productStands

/-- A longer number is rounded as a decimal. -/
theorem standsFor_ofNat_of_ge {number : ℕ} (large : 2 ^ 53 ≤ number)
    (word : number < 2 ^ 64) :
    StandsFor (Float.ofNat number).toModel.unpack (nearestTo number) := by
  have nonzero : number ≠ 0 := by omega
  have bits : number.log2 ≤ 63 := log2_le_of_lt word
  have isModel : Float.ofNat number =
      .ofModel (Float.Model.ofScientific number 0) := by
    show Float.ofScientific number false 0 = _
    rw [Float.ofScientific, dif_neg]
    · rfl
    · exact fun exact => absurd exact.1 (Nat.not_lt_of_le large)
  have isRounded : UnpackedFloat.ofScientific .binary64 number 0 =
      UnpackedFloat.roundWithAccuracy .binary64 .positive (number * 2 ^ 53)
        (-(53 : ℕ)) .exact := by
    have notLarge : ¬(0 : ℤ) > 2 ^ Format.exponentBits .binary64 := by decide
    have notTiny : ¬(0 : ℤ) <
        -((2 ^ Format.exponentBits .binary64 : ℤ) + number.log2) := by
      have range : (2 ^ Format.exponentBits .binary64 : ℤ) = 2048 := by
        decide
      rw [range]
      omega
    have bits : Format.mantissaBits .binary64 = 53 := rfl
    have same : Sign.positive * Sign.positive = .positive := rfl
    rw [UnpackedFloat.ofScientific, dif_neg nonzero, if_neg notLarge,
      if_neg notTiny, if_pos (Int.le_refl 0), mul_finite, bits, same,
      Nat.shiftLeft_eq, Int.toNat_zero, Nat.pow_zero, Nat.mul_one,
      Int.add_zero]
  obtain ⟨significand, exponent, positive, rounded, stands, -⟩ :=
    round_scaled 53 nonzero word
      (two_pow_le_mul nonzero (by omega)) (by omega)
  have packed : (Float.ofNat number).toModel.unpack =
      (Float.Model.pack
        (UnpackedFloat.ofScientific .binary64 number 0)).unpack := by
    rw [isModel]
    rfl
  rw [packed, isRounded, rounded, unpack_pack stands.normal]
  exact stands

theorem standsFor_ofNat {number : ℕ} (word : number < 2 ^ 64) :
    StandsFor (Float.ofNat number).toModel.unpack (nearestTo number) := by
  rcases Nat.eq_zero_or_pos number with rfl | positive
  · exact ⟨.zero .positive, rfl⟩
  · rcases Nat.lt_or_ge number (2 ^ 53) with small | large
    · exact standsFor_ofNat_of_lt positive.ne' small
    · exact standsFor_ofNat_of_ge large word

/-- The float for a whole number of a machine word has the value of the nearest
number of 53 places. -/
theorem standsFor_ofInt {number : ℤ} (word : number.natAbs < 2 ^ 64) :
    StandsFor (Float.ofInt number).toModel.unpack (nearestWhole number) := by
  cases number with
  | ofNat number =>
      have small : number < 2 ^ 64 := word
      exact_mod_cast standsFor_ofNat small
  | negSucc number =>
      have small : number + 1 < 2 ^ 64 := word
      have stands := (standsFor_ofNat small).neg
      have isModel : (Float.ofInt (.negSucc number)).toModel.unpack =
          (Float.Model.pack
            (Float.ofNat (number + 1)).toModel.unpack.neg).unpack := rfl
      rw [isModel, unpack_pack stands.normal, nearestWhole]
      exact_mod_cast stands

section Comparison

variable {left right : ℤ} (leftWord : left.natAbs < 2 ^ 64)
  (rightWord : right.natAbs < 2 ^ 64)

include leftWord rightWord

theorem ofInt_lt_ofInt_iff :
    Float.ofInt left < Float.ofInt right ↔
      nearestWhole left < nearestWhole right := by
  have leftStands := standsFor_ofInt leftWord
  have rightStands := standsFor_ofInt rightWord
  rw [lt_iff_value_lt leftStands.normal rightStands.normal, value, value,
    leftStands.amount, rightStands.amount, Int.cast_lt]

theorem ofInt_beq_ofInt_iff :
    (Float.ofInt left == Float.ofInt right) = true ↔
      nearestWhole left = nearestWhole right := by
  have leftStands := standsFor_ofInt leftWord
  have rightStands := standsFor_ofInt rightWord
  rw [beq_iff_value_eq leftStands.normal rightStands.normal, value, value,
    leftStands.amount, rightStands.amount, Int.cast_inj]

end Comparison

end Polystore.Numeral
