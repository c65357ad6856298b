import Polystore.Proofs.Numeral.WholeFloats
import Polystore.Query.Condition

/-!
# Comparisons of whole numbers

A stored whole number and a whole literal are compared as floats, so what is
compared are the nearest numbers of 53 places.  The outcome is that of the
numbers themselves, except when they differ and the nearest ones do not.
-/

namespace Polystore

open Numeral

namespace Comparator

/-- A stored whole number and a literal stand in the relation that the
comparator is about. -/
def Relates (comparator : Comparator) (stored literal : ℤ) : Prop :=
  match comparator with
  | .equal => stored = literal
  | .different => stored ≠ literal
  | .greater => literal < stored
  | .atLeast => literal ≤ stored
  | .less => stored < literal
  | .atMost => stored ≤ literal

theorem accepts_compare_iff (comparator : Comparator) (stored literal : ℤ) :
    comparator.accepts (some (compare stored literal)) = true ↔
      comparator.Relates stored literal := by
  rcases lt_trichotomy stored literal with less | same | greater
  · rw [compare_lt_iff_lt.mpr less]
    cases comparator <;> simp [accepts, Relates] <;> omega
  · rw [compare_eq_iff_eq.mpr same]
    cases comparator <;> simp [accepts, Relates] <;> omega
  · rw [compare_gt_iff_gt.mpr greater]
    cases comparator <;> simp [accepts, Relates] <;> omega

/-- Rounding goes unnoticed unless it makes unequal numbers equal. -/
theorem relates_nearestWhole_iff (stored literal : ℤ) :
    (∀ comparator : Comparator,
      comparator.Relates (nearestWhole stored) (nearestWhole literal) ↔
        comparator.Relates stored literal) ↔
      stored = literal ∨ nearestWhole stored ≠ nearestWhole literal := by
  constructor
  · intro unnoticed
    by_cases same : nearestWhole stored = nearestWhole literal
    · exact .inl ((unnoticed .equal).mp same)
    · exact .inr same
  · rintro (rfl | apart) comparator
    · cases comparator <;> simp [Relates]
    · have differ : stored ≠ literal := by
        rintro rfl
        exact apart rfl
      have below := nearestWhole_lt_iff apart
      have above := nearestWhole_lt_iff apart.symm
      cases comparator <;> simp only [Relates] <;> omega

end Comparator

theorem Literal.compareFloats_ofInt {left right : ℤ}
    (leftWord : left.natAbs < 2 ^ 64) (rightWord : right.natAbs < 2 ^ 64) :
    compareFloats (Float.ofInt left) (Float.ofInt right) =
      some (Ord.compare (nearestWhole left) (nearestWhole right)) := by
  have isLess := ofInt_lt_ofInt_iff leftWord rightWord
  have isEqual := ofInt_beq_ofInt_iff leftWord rightWord
  have isGreater := ofInt_lt_ofInt_iff rightWord leftWord
  rw [compareFloats]
  rcases lt_trichotomy (nearestWhole left) (nearestWhole right) with
    less | same | greater
  · rw [if_pos (isLess.mpr less), compare_lt_iff_lt.mpr less]
  · rw [if_neg (mt isLess.mp same.not_lt), if_pos (isEqual.mpr same),
      compare_eq_iff_eq.mpr same]
  · rw [if_neg (mt isLess.mp greater.not_gt), if_neg (mt isEqual.mp greater.ne'),
      if_pos (isGreater.mpr greater), compare_gt_iff_gt.mpr greater]

namespace Condition

variable {field : String} {row : Row} {stored : ℤ}

theorem holds_integer_iff (comparator : Comparator) (literal : Int64)
    (isStored : row.get? field = some (.integer stored))
    (word : stored.natAbs < 2 ^ 64) :
    (Condition.mk field comparator (.integer literal)).holds row = true ↔
      comparator.Relates (nearestWhole stored)
        (nearestWhole literal.toInt) := by
  have literalWord : literal.toInt.natAbs < 2 ^ 64 := by
    have lowest := literal.le_toInt
    have highest := literal.toInt_lt
    omega
  rw [holds, isStored]
  show comparator.accepts (Literal.compareFloats (Float.ofInt stored)
    (Float.ofInt literal.toInt)) = true ↔ _
  rw [Literal.compareFloats_ofInt word literalWord,
    Comparator.accepts_compare_iff]

/-- A stored whole number of a machine word is compared with a whole literal
as the nearest numbers of 53 places are.  All comparators give what they would
give for the numbers themselves exactly if these are equal or the nearest
ones differ, so always if one of the two has at most 53 places. -/
theorem holds_integer (literal : Int64)
    (isStored : row.get? field = some (.integer stored))
    (lowest : -2 ^ 63 ≤ stored) (highest : stored < 2 ^ 64) :
    (∀ comparator,
      (Condition.mk field comparator (.integer literal)).holds row = true ↔
        comparator.Relates (nearestWhole stored)
          (nearestWhole literal.toInt)) ∧
    ((∀ comparator,
      (Condition.mk field comparator (.integer literal)).holds row = true ↔
        comparator.Relates stored literal.toInt) ↔
      stored = literal.toInt ∨
        nearestWhole stored ≠ nearestWhole literal.toInt) ∧
    (stored.natAbs < 2 ^ 53 ∨ literal.toInt.natAbs < 2 ^ 53 →
      ∀ comparator,
        (Condition.mk field comparator (.integer literal)).holds row = true ↔
          comparator.Relates stored literal.toInt) := by
  have word : stored.natAbs < 2 ^ 64 := by omega
  have rounded := fun comparator =>
    holds_integer_iff comparator literal isStored word
  have unnoticed :
      (∀ comparator,
        (Condition.mk field comparator (.integer literal)).holds row = true ↔
          comparator.Relates stored literal.toInt) ↔
      stored = literal.toInt ∨
        nearestWhole stored ≠ nearestWhole literal.toInt := by
    simp only [rounded]
    exact Comparator.relates_nearestWhole_iff stored literal.toInt
  refine ⟨rounded, unnoticed, ?_⟩
  intro short
  apply unnoticed.mpr
  rw [or_iff_not_imp_right, not_not]
  intro same
  have absolute := congrArg Int.natAbs same
  rcases short with storedShort | literalShort
  · rw [nearestWhole_of_lt storedShort] at same absolute
    rcases Nat.lt_or_ge literal.toInt.natAbs (2 ^ 53) with small | large
    · rw [same, nearestWhole_of_lt small]
    · have := le_natAbs_nearestWhole large
      omega
  · rw [nearestWhole_of_lt literalShort] at same absolute
    rcases Nat.lt_or_ge stored.natAbs (2 ^ 53) with small | large
    · rw [← same, nearestWhole_of_lt small]
    · have := le_natAbs_nearestWhole large
      omega

/-- Both words are at their greatest, and the numbers are told apart. -/
theorem holds_integer_greatest :
    Keyed.get? "id" [("id", Json.integer 18446744073709551615)] =
        some (.integer 18446744073709551615) ∧
      ((⟨"id", .greater, .integer Int64.maxValue⟩ : Condition).holds
          [("id", .integer 18446744073709551615)] = true ↔
        Comparator.greater.Relates 18446744073709551615
          Int64.maxValue.toInt) := by
  have isStored : Keyed.get? "id" [("id", Json.integer 18446744073709551615)] =
      some (.integer 18446744073709551615) :=
    rfl
  refine ⟨isStored, ?_⟩
  obtain ⟨-, unnoticed, -⟩ :=
    holds_integer Int64.maxValue isStored (by decide) (by decide)
  exact unnoticed.mpr (.inr (by decide +kernel)) .greater

/-- Two numbers of 54 places are taken for equal, though they differ. -/
theorem holds_integer_neighbour :
    let condition : Condition := ⟨"id", .equal, .integer 9007199254740993⟩
    condition.holds [("id", .integer 9007199254740992)] = true ∧
      ¬Comparator.equal.Relates 9007199254740992
        (9007199254740993 : Int64).toInt := by
  intro condition
  constructor
  · decide +kernel
  · show ¬(9007199254740992 : ℤ) = (9007199254740993 : Int64).toInt
    decide

end Condition

end Polystore
