import Mathlib.Tactic.Ring
import Polystore.Numeral.Layout
import Polystore.Proofs.Numeral.Rounding

/-!
# Rounding whole numbers to 53 places

The significand of a float has 53 places.  A whole number with more of them is
rounded to a multiple of a power of two, and a number half way between two
multiples goes to the even one.  Rounding keeps the order of whole numbers,
though not always strictly.
-/

namespace Polystore.Numeral

variable {number other unit : ℕ}

theorem roundHalfEven_cases (number unit : ℕ) :
    (2 * (number % unit) < unit ∧
      roundHalfEven number unit = number / unit) ∨
    (2 * (number % unit) = unit ∧
      roundHalfEven number unit = number / unit + number / unit % 2) ∨
    (unit < 2 * (number % unit) ∧
      roundHalfEven number unit = number / unit + 1) := by
  rw [roundHalfEven]
  rcases Nat.lt_trichotomy (2 * (number % unit)) unit with below | half | above
  · exact .inl ⟨below, by simp [below]⟩
  · refine .inr (.inl ⟨half, ?_⟩)
    rcases Nat.mod_two_eq_zero_or_one (number / unit) with even | odd
    · simp [half, even]
    · simp [half, odd]
  · refine .inr (.inr ⟨above, ?_⟩)
    simp [Nat.not_lt_of_gt above, Nat.ne_of_gt above]

theorem roundHalfEven_mono (unit : ℕ) (atMost : number ≤ other) :
    roundHalfEven number unit ≤ roundHalfEven other unit := by
  have quotients : number / unit ≤ other / unit := Nat.div_le_div_right atMost
  have left := roundHalfEven_cases number unit
  have right := roundHalfEven_cases other unit
  rcases Nat.lt_or_eq_of_le quotients with below | same
  · omega
  · have rests : number % unit ≤ other % unit := by
      have wholeLeft := Nat.div_add_mod number unit
      have wholeRight := Nat.div_add_mod other unit
      rw [same] at wholeLeft
      omega
    rw [same] at left
    omega

theorem roundHalfEven_multiple (positive : 0 < unit) (quotient : ℕ) :
    roundHalfEven (quotient * unit) unit = quotient := by
  have exact := roundHalfEven_cases (quotient * unit) unit
  rw [Nat.mul_mod_left, Nat.mul_div_cancel _ positive] at exact
  omega

theorem roundHalfEven_scaled {factor : ℕ} (positive : 0 < factor) :
    roundHalfEven (number * factor) (unit * factor) =
      roundHalfEven number unit := by
  have quotient : number * factor / (unit * factor) = number / unit :=
    Nat.mul_div_mul_right _ _ positive
  have rest : number * factor % (unit * factor) = number % unit * factor :=
    Nat.mul_mod_mul_right _ _ _
  have scaled := roundHalfEven_cases (number * factor) (unit * factor)
  have plain := roundHalfEven_cases number unit
  rw [quotient, rest, ← Nat.mul_assoc, Nat.mul_lt_mul_right positive,
    Nat.mul_left_inj positive.ne', Nat.mul_lt_mul_right positive] at scaled
  omega

theorem log2_eq_of_bounds {bits : ℕ} (atLeast : 2 ^ bits ≤ number)
    (below : number < 2 ^ (bits + 1)) : number.log2 = bits := by
  have nonzero : number ≠ 0 := by
    have := Nat.two_pow_pos bits
    omega
  exact (Nat.log2_eq_iff nonzero).mpr ⟨atLeast, below⟩

theorem log2_mul_two_pow (nonzero : number ≠ 0) (places : ℕ) :
    (number * 2 ^ places).log2 = number.log2 + places := by
  apply log2_eq_of_bounds
  · rw [Nat.pow_add]
    exact Nat.mul_le_mul_right _ (Nat.log2_self_le nonzero)
  · rw [Nat.add_right_comm, Nat.pow_add]
    exact Nat.mul_lt_mul_of_pos_right Nat.lt_log2_self (Nat.two_pow_pos _)

/-- What a unit in the last place of the float for a whole number is worth. -/
def unitOf (number : ℕ) : ℕ :=
  2 ^ (number.log2 - 52)

/-- The whole number that the float nearest to a whole number stands for. -/
def nearestTo (number : ℕ) : ℕ :=
  roundHalfEven number (unitOf number) * unitOf number

theorem nearestTo_of_dvd (multiple : unitOf number ∣ number) :
    nearestTo number = number := by
  obtain ⟨quotient, isMultiple⟩ := multiple
  rw [Nat.mul_comm] at isMultiple
  have exact := roundHalfEven_multiple (Nat.two_pow_pos (number.log2 - 52))
    quotient
  rw [← unitOf, ← isMultiple] at exact
  rw [nearestTo, exact, ← isMultiple]

theorem nearestTo_of_lt (small : number < 2 ^ 53) :
    nearestTo number = number := by
  have places : number.log2 ≤ 52 := log2_le_of_lt small
  apply nearestTo_of_dvd
  rw [unitOf, Nat.sub_eq_zero_of_le places]
  exact Nat.one_dvd number

theorem nearestTo_mul_two_pow (nonzero : number ≠ 0) (places : ℕ) :
    nearestTo (number * 2 ^ places) = nearestTo number * 2 ^ places := by
  have longer := log2_mul_two_pow nonzero places
  rcases Nat.lt_or_ge number.log2 52 with few | many
  · have small : number < 2 ^ 53 := Nat.lt_log2_self.trans_le
      (Nat.pow_le_pow_right Nat.two_pos (by omega))
    rw [nearestTo_of_lt small]
    apply nearestTo_of_dvd
    rw [unitOf, longer]
    have shorter : 2 ^ (number.log2 + places - 52) ∣ 2 ^ places :=
      Nat.pow_dvd_pow 2 (by omega)
    exact shorter.mul_left number
  · have scaled : unitOf (number * 2 ^ places) =
        unitOf number * 2 ^ places := by
      rw [unitOf, unitOf, longer, ← Nat.pow_add]
      congr 1
      omega
    rw [nearestTo, scaled, roundHalfEven_scaled (Nat.two_pow_pos places),
      nearestTo, Nat.mul_assoc]

theorem unitOf_mul (large : 52 ≤ number.log2) :
    2 ^ 52 * unitOf number = 2 ^ number.log2 := by
  rw [unitOf, ← Nat.pow_add, Nat.add_sub_cancel' large]

/-- Rounding up may lengthen a number to the next power of two. -/
theorem roundHalfEven_unitOf_bounds (nonzero : number ≠ 0)
    (large : 52 ≤ number.log2) :
    2 ^ 52 ≤ roundHalfEven number (unitOf number) ∧
      roundHalfEven number (unitOf number) ≤ 2 ^ 53 := by
  have positive : 0 < unitOf number := Nat.two_pow_pos _
  have whole := unitOf_mul large
  have lower : 2 ^ 52 * unitOf number ≤ number := by
    rw [whole]
    exact Nat.log2_self_le nonzero
  have upper : number ≤ 2 ^ 53 * unitOf number := by
    have double : 2 ^ 53 * unitOf number = 2 ^ (number.log2 + 1) := by
      rw [Nat.pow_succ 2 number.log2, ← whole]
      ring
    rw [double]
    exact Nat.lt_log2_self.le
  constructor
  · have least := roundHalfEven_mono (unitOf number) lower
    rwa [roundHalfEven_multiple positive] at least
  · have most := roundHalfEven_mono (unitOf number) upper
    rwa [roundHalfEven_multiple positive] at most

theorem nearestTo_bounds (nonzero : number ≠ 0) :
    2 ^ number.log2 ≤ nearestTo number ∧
      nearestTo number ≤ 2 ^ (number.log2 + 1) := by
  rcases Nat.lt_or_ge number.log2 52 with few | many
  · have small : number < 2 ^ 53 := Nat.lt_log2_self.trans_le
      (Nat.pow_le_pow_right Nat.two_pos (by omega))
    rw [nearestTo_of_lt small]
    exact ⟨Nat.log2_self_le nonzero, Nat.lt_log2_self.le⟩
  · obtain ⟨atLeast, atMost⟩ := roundHalfEven_unitOf_bounds nonzero many
    rw [nearestTo, Nat.pow_succ, ← unitOf_mul many]
    constructor
    · exact Nat.mul_le_mul_right _ atLeast
    · calc roundHalfEven number (unitOf number) * unitOf number
          ≤ 2 ^ 53 * unitOf number := Nat.mul_le_mul_right _ atMost
        _ = 2 ^ 52 * unitOf number * 2 := by ring

theorem nearestTo_mono : Monotone nearestTo := by
  intro number other atMost
  rcases Nat.eq_zero_or_pos number with rfl | positive
  · exact Nat.zero_le _
  · have nonzero : number ≠ 0 := positive.ne'
    have otherNonzero : other ≠ 0 := (positive.trans_le atMost).ne'
    have places : number.log2 ≤ other.log2 :=
      (Nat.le_log2 otherNonzero).mpr ((Nat.log2_self_le nonzero).trans atMost)
    rcases Nat.lt_or_eq_of_le places with fewer | same
    · calc nearestTo number ≤ 2 ^ (number.log2 + 1) :=
            (nearestTo_bounds nonzero).2
        _ ≤ 2 ^ other.log2 := Nat.pow_le_pow_right Nat.two_pos fewer
        _ ≤ nearestTo other := (nearestTo_bounds otherNonzero).1
    · have sameUnit : unitOf number = unitOf other := by
        rw [unitOf, unitOf, same]
      rw [nearestTo, nearestTo, sameUnit]
      exact Nat.mul_le_mul_right _ (roundHalfEven_mono _ atMost)

/-- The same for whole numbers on both sides of zero. -/
def nearestWhole : ℤ → ℤ
  | .ofNat number => nearestTo number
  | .negSucc number => -nearestTo (number + 1)

theorem nearestWhole_of_lt {number : ℤ} (small : number.natAbs < 2 ^ 53) :
    nearestWhole number = number := by
  cases number with
  | ofNat number =>
      have exact : nearestTo number = number := nearestTo_of_lt small
      rw [nearestWhole, exact]
      rfl
  | negSucc number =>
      have exact : nearestTo (number + 1) = number + 1 :=
        nearestTo_of_lt small
      rw [nearestWhole, exact]
      rfl

theorem nearestWhole_mono {number other : Int} (atMost : number ≤ other) :
    nearestWhole number ≤ nearestWhole other := by
  cases number with
  | ofNat number =>
      cases other with
      | ofNat other =>
          exact Int.ofNat_le.mpr (nearestTo_mono (Int.ofNat_le.mp atMost))
      | negSucc other =>
          have below : Int.negSucc other < number :=
            (Int.negSucc_lt_zero other).trans_le (Int.natCast_nonneg number)
          exact absurd atMost (Int.not_le.mpr below)
  | negSucc number =>
      cases other with
      | ofNat other =>
          rw [nearestWhole, nearestWhole]
          omega
      | negSucc other =>
          have turned : other + 1 ≤ number + 1 := by omega
          exact Int.neg_le_neg (Int.ofNat_le.mpr (nearestTo_mono turned))

theorem natAbs_nearestWhole (number : ℤ) :
    (nearestWhole number).natAbs = nearestTo number.natAbs := by
  cases number with
  | ofNat number => rfl
  | negSucc number =>
      rw [nearestWhole, Int.natAbs_neg]
      rfl

theorem le_natAbs_nearestWhole {number : ℤ} (large : 2 ^ 53 ≤ number.natAbs) :
    2 ^ 53 ≤ (nearestWhole number).natAbs := by
  have power : nearestTo (2 ^ 53) = 2 ^ 53 := by
    have one : nearestTo 1 = 1 := nearestTo_of_lt (by decide)
    have appended := nearestTo_mul_two_pow one_ne_zero 53
    rwa [one, Nat.one_mul] at appended
  rw [natAbs_nearestWhole, ← power]
  exact nearestTo_mono large

/-- Unequal numbers whose nearest ones differ keep their order. -/
theorem nearestWhole_lt_iff {left right : ℤ}
    (apart : nearestWhole left ≠ nearestWhole right) :
    nearestWhole left < nearestWhole right ↔ left < right := by
  constructor
  · intro below
    by_contra atLeast
    exact absurd (nearestWhole_mono (not_lt.mp atLeast)) (not_le.mpr below)
  · intro below
    exact lt_of_le_of_ne (nearestWhole_mono below.le) apart

end Polystore.Numeral
