import Mathlib.Data.List.TakeWhile
import Mathlib.Tactic.IntervalCases
import Polystore.Text.Lowercase

/-!
# Lower case and the case of ASCII letters

Most characters have a small form of their own, but what a capital sigma
becomes depends on the characters around it.  These are looked at for whether
they have case and not for which, so the lower-case form of a text is the same
whether its ASCII letters are capitals or small.
-/

namespace Polystore.Text

def asciiCapitals : List Char :=
  ['A', 'B', 'C', 'D', 'E', 'F', 'G', 'H', 'I', 'J', 'K', 'L', 'M',
    'N', 'O', 'P', 'Q', 'R', 'S', 'T', 'U', 'V', 'W', 'X', 'Y', 'Z']

theorem mem_asciiCapitals {c : Char} (atLeast : 65 ≤ c.toNat)
    (atMost : c.toNat ≤ 90) : c ∈ asciiCapitals := by
  have listed : ∀ n, 65 ≤ n → n ≤ 90 → Char.ofNat n ∈ asciiCapitals := by
    intro n atLeast atMost
    interval_cases n <;> decide
  have member := listed c.toNat atLeast atMost
  rwa [Char.ofNat_toNat] at member

theorem toLower_of_not_mem_asciiCapitals {c : Char}
    (noCapital : c ∉ asciiCapitals) : c.toLower = c := by
  unfold Char.toLower
  split
  · rename_i bounds
    exact absurd (mem_asciiCapitals (UInt32.le_iff_toNat_le.mp bounds.1)
      (UInt32.le_iff_toNat_le.mp bounds.2)) noCapital
  · rfl

/-- What tells the capitals of ASCII from their small letters is all that
tells a character from its small letter. -/
theorem apply_toLower {α : Type} (value : Char → α)
    (same : asciiCapitals.map (fun c => value c.toLower) =
      asciiCapitals.map value) (c : Char) :
    value c.toLower = value c := by
  by_cases capital : c ∈ asciiCapitals
  · exact List.map_inj_left.mp same c capital
  · rw [toLower_of_not_mem_asciiCapitals capital]

theorem toUpper_toLower (c : Char) : c.toLower.toUpper = c.toUpper :=
  apply_toLower Char.toUpper (by decide) c

theorem toLower_toUpper (c : Char) : c.toUpper.toLower = c.toLower := by
  by_cases small : 97 ≤ c.toNat ∧ c.toNat ≤ 122
  · have listed : ∀ n, 97 ≤ n → n ≤ 122 →
        (Char.ofNat n).toUpper.toLower = (Char.ofNat n).toLower := by
      intro n atLeast atMost
      interval_cases n <;> decide
    have same := listed c.toNat small.1 small.2
    rwa [Char.ofNat_toNat] at same
  · have unchanged : c.toUpper = c := by
      unfold Char.toUpper
      split
      · rename_i bounds
        exact absurd ⟨UInt32.le_iff_toNat_le.mp bounds.1,
          UInt32.le_iff_toNat_le.mp bounds.2⟩ small
      · rfl
    rw [unchanged]

theorem smallLetter_toLower (c : Char) :
    smallLetter c.toLower = smallLetter c :=
  apply_toLower smallLetter (by decide) c

theorem isCased_toLower (c : Char) : isCased c.toLower = isCased c :=
  apply_toLower isCased (by decide) c

theorem isCaseIgnorable_toLower (c : Char) :
    isCaseIgnorable c.toLower = isCaseIgnorable c :=
  apply_toLower isCaseIgnorable (by decide) c

theorem startsCased_map_toLower (cs : List Char) :
    startsCased (cs.map Char.toLower) = startsCased cs := by
  have ignorable : isCaseIgnorable ∘ Char.toLower = isCaseIgnorable :=
    funext isCaseIgnorable_toLower
  rw [startsCased, startsCased, List.dropWhile_map, ignorable]
  cases cs.dropWhile isCaseIgnorable with
  | nil => rfl
  | cons c rest => exact isCased_toLower c

theorem lowerAt_map_toLower (before : List Char) (c : Char)
    (after : List Char) :
    lowerAt (before.map Char.toLower) c.toLower (after.map Char.toLower) =
      lowerAt before c after := by
  have isSigma : (c.toLower == 'Σ') = (c == 'Σ') :=
    apply_toLower (· == 'Σ') (by decide) c
  have isDottedI : (c.toLower == 'İ') = (c == 'İ') :=
    apply_toLower (· == 'İ') (by decide) c
  rw [lowerAt, lowerAt, startsCased_map_toLower, startsCased_map_toLower,
    smallLetter_toLower, isSigma, isDottedI]

theorem lowerAfter_map_toLower (before cs : List Char) :
    lowerAfter (before.map Char.toLower) (cs.map Char.toLower) =
      lowerAfter before cs := by
  induction cs generalizing before with
  | nil => rfl
  | cons c cs induction =>
      have others := induction (c :: before)
      rw [List.map_cons] at others
      rw [List.map_cons, lowerAfter, lowerAfter, lowerAt_map_toLower, others]

/-- The case of ASCII letters makes no difference to the lower-case form. -/
theorem lower_map_toLower (cs : List Char) :
    lower (cs.map Char.toLower) = lower cs :=
  lowerAfter_map_toLower [] cs

end Polystore.Text
