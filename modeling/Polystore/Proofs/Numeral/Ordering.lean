import Mathlib.Data.Prod.Lex
import Mathlib.Order.Monotone.Basic
import Mathlib.Data.Int.Order.Basic

/-!
# The order of floats

Floats that are numbers stand at places on a line, on which both zeros share
one place.  Comparing two numbers is comparing their places, so that whatever
holds in a linear order holds for numbers.
-/

namespace Polystore.Numeral

open Float.Model (UnpackedFloat)

/-- Where a number stands: the side of zero on which it lies, and on this side
its exponent and then its significand. -/
def placeOf : UnpackedFloat → ℤ ×ₗ ℤ ×ₗ ℤ
  | .infinity .negative => toLex (-2, toLex (0, 0))
  | .finite .negative significand exponent _ =>
    toLex (-1, toLex (-exponent, -significand))
  | .zero _ | .notANumber => toLex (0, toLex (0, 0))
  | .finite .positive significand exponent _ =>
    toLex (1, toLex (exponent, significand))
  | .infinity .positive => toLex (2, toLex (0, 0))

theorem placeOf_zero (sign : UnpackedFloat.Sign) :
    placeOf (.zero sign) = toLex (0, toLex (0, 0)) :=
  rfl

theorem placeOf_positive {significand : ℕ} {exponent : ℤ}
    (positive : 0 < significand) :
    placeOf (.finite .positive significand exponent positive) =
      toLex (1, toLex (exponent, (significand : ℤ))) :=
  rfl

theorem placeOf_negative {significand : ℕ} {exponent : ℤ}
    (positive : 0 < significand) :
    placeOf (.finite .negative significand exponent positive) =
      toLex (-1, toLex (-exponent, -(significand : ℤ))) :=
  rfl

def place (value : Float) : ℤ ×ₗ ℤ ×ₗ ℤ :=
  placeOf value.toModel.unpack

theorem compare_toLex {α β : Type} [LinearOrder α] [LinearOrder β]
    (left right : α × β) :
    compare (toLex left) (toLex right) =
      (compare left.1 right.1).then (compare left.2 right.2) := by
  rw [Prod.Lex.compare_def]
  rfl

theorem compare_neg_neg (left right : ℤ) :
    compare (-left) (-right) = compare right left := by
  have turned : StrictAnti fun value : ℤ => -value :=
    fun _ _ below => Int.neg_lt_neg below
  rw [← cmp_eq_compare, ← cmp_eq_compare]
  exact turned.cmp_map_eq left right

theorem compare_natCast (left right : ℕ) :
    compare (left : ℤ) (right : ℤ) = compare left right := by
  have kept : StrictMono fun value : ℕ => (value : ℤ) :=
    fun _ _ below => Int.ofNat_lt.mpr below
  rw [← cmp_eq_compare, ← cmp_eq_compare]
  exact kept.cmp_map_eq left right

theorem compare_finite {left right : ℕ} {leftExponent rightExponent : ℤ}
    (sign : UnpackedFloat.Sign) (leftPositive : 0 < left)
    (rightPositive : 0 < right) :
    (UnpackedFloat.finite sign left leftExponent leftPositive).compare
        (.finite sign right rightExponent rightPositive) =
      some (compare (placeOf (.finite sign left leftExponent leftPositive))
        (placeOf (.finite sign right rightExponent rightPositive))) := by
  cases sign with
  | negative =>
      show some ((compare leftExponent rightExponent).then
          (compare left right)).swap =
        some (compare (toLex (-1, toLex (-leftExponent, -(left : ℤ))))
          (toLex (-1, toLex (-rightExponent, -(right : ℤ)))))
      simp only [compare_toLex, compare_neg_neg, compare_natCast,
        Ordering.swap_then]
      rw [← Std.OrientedOrd.eq_swap, ← Std.OrientedOrd.eq_swap]
      rfl
  | positive =>
      show some ((compare leftExponent rightExponent).then
          (compare left right)) =
        some (compare (toLex (1, toLex (leftExponent, (left : ℤ))))
          (toLex (1, toLex (rightExponent, (right : ℤ)))))
      simp only [compare_toLex, compare_natCast]
      rfl

theorem compare_eq_compare_placeOf {left right : UnpackedFloat}
    (leftNumber : left.isNaN = false) (rightNumber : right.isNaN = false) :
    left.compare right = some (compare (placeOf left) (placeOf right)) := by
  cases left with
  | infinity sign =>
      cases right with
      | notANumber => cases rightNumber
      | infinity other => cases sign <;> cases other <;> rfl
      | zero other => cases sign <;> rfl
      | finite other => cases sign <;> cases other <;> rfl
  | notANumber => cases leftNumber
  | zero sign =>
      cases right with
      | notANumber => cases rightNumber
      | infinity other => cases other <;> rfl
      | zero other => rfl
      | finite other => cases other <;> rfl
  | finite sign significand exponent positive =>
      cases right with
      | notANumber => cases rightNumber
      | infinity other => cases sign <;> cases other <;> rfl
      | zero other => cases sign <;> rfl
      | finite other =>
          cases sign with
          | negative =>
              cases other with
              | negative => exact compare_finite _ _ _
              | positive => rfl
          | positive =>
              cases other with
              | negative => rfl
              | positive => exact compare_finite _ _ _

variable {left right : Float}

theorem lt_iff_place_lt (leftNumber : left.isNaN = false)
    (rightNumber : right.isNaN = false) :
    left < right ↔ place left < place right := by
  have compared := compare_eq_compare_placeOf leftNumber rightNumber
  have isLower : left < right ↔
      left.toModel.unpack.compare right.toModel.unpack = some .lt := by
    show decide (left.toModel < right.toModel) = true ↔ _
    rw [decide_eq_true_iff]
    exact beq_iff_eq
  rw [isLower, compared, Option.some_inj]
  exact compare_lt_iff_lt

theorem beq_iff_place_eq (leftNumber : left.isNaN = false)
    (rightNumber : right.isNaN = false) :
    (left == right) = true ↔ place left = place right := by
  have compared := compare_eq_compare_placeOf leftNumber rightNumber
  have isEqual : (left == right) = true ↔
      left.toModel.unpack.compare right.toModel.unpack = some .eq := by
    show (left.toModel.unpack.compare right.toModel.unpack == some .eq) = true
      ↔ _
    exact beq_iff_eq
  rw [isEqual, compared, Option.some_inj]
  exact compare_eq_iff_eq

end Polystore.Numeral
