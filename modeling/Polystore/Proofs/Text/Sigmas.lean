import Mathlib.Data.List.Infix
import Polystore.Text.Lowercase

/-!
# Capital sigmas in lower case

In lower case every character but one becomes the same wherever it stands.  The
exception is the capital sigma, which becomes another letter where it ends a
word than elsewhere.  So a piece of a text reads in the lower case of the whole
as it does in its own, if each of its sigmas ends a word in the whole just
where it does so in the piece.
-/

namespace Polystore.Text

/-- A sigma between these texts ends a word; the nearest character of `before`
comes first. -/
def endsWord (before after : List Char) : Bool :=
  startsCased before && !startsCased after

/-- Lower case of a text that stands between others; the nearest character of
`before` comes first. -/
def lowerBetween (before after : List Char) : List Char → List Char
  | [] => []
  | c :: cs =>
    lowerAt before c (cs ++ after) ++ lowerBetween (c :: before) after cs

/-- What holds of the places of all capital sigmas of a text. -/
def AtSigmas (place : List Char → List Char → Prop) (text : List Char) :
    Prop :=
  ∀ before after, text = before ++ 'Σ' :: after → place before.reverse after

variable {before after text : List Char}

theorem lowerAt_sigma (before after : List Char) :
    lowerAt before 'Σ' after =
      if endsWord before after then ['ς'] else ['σ'] := rfl

/-- Only a sigma is looked at together with its surroundings. -/
theorem lowerAt_congr {c : Char} (notSigma : c ≠ 'Σ')
    (before after otherBefore otherAfter : List Char) :
    lowerAt before c after = lowerAt otherBefore c otherAfter := by
  rw [lowerAt, lowerAt, beq_false_of_ne notSigma]
  rfl

theorem lowerBetween_nil (before text : List Char) :
    lowerBetween before [] text = lowerAfter before text := by
  induction text generalizing before with
  | nil => rfl
  | cons c text induction =>
      rw [lowerBetween, lowerAfter, List.append_nil, induction]

theorem lowerBetween_append (before after front rest : List Char) :
    lowerBetween before after (front ++ rest) =
      lowerBetween before (rest ++ after) front ++
        lowerBetween (front.reverse ++ before) after rest := by
  induction front generalizing before with
  | nil => rfl
  | cons c front induction =>
      rw [List.cons_append, lowerBetween, lowerBetween, induction,
        List.append_assoc, List.append_assoc, List.reverse_cons,
        List.append_assoc, List.singleton_append]

/-- A text in lower case falls into its pieces, each between the others. -/
theorem lower_append (front piece rest : List Char) :
    lower (front ++ (piece ++ rest)) =
      lowerBetween [] (piece ++ rest) front ++
        (lowerBetween front.reverse rest piece ++
          lowerBetween (piece.reverse ++ front.reverse) [] rest) := by
  rw [lower, ← lowerBetween_nil, lowerBetween_append, lowerBetween_append]
  simp only [List.append_nil]

theorem atSigmas_cons {place : List Char → List Char → Prop} {c : Char} :
    AtSigmas place (c :: text) ↔
      (c = 'Σ' → place [] text) ∧
        AtSigmas (fun before after => place (before ++ [c]) after) text := by
  constructor
  · intro all
    constructor
    · rintro rfl
      exact all [] text rfl
    · rintro before after rfl
      rw [← List.reverse_cons]
      exact all (c :: before) after rfl
  · rintro ⟨first, others⟩ before after isText
    cases before with
    | nil =>
        obtain ⟨rfl, rfl⟩ := List.cons.inj isText
        exact first rfl
    | cons d before =>
        obtain ⟨rfl, rfl⟩ := List.cons.inj isText
        rw [List.reverse_cons]
        exact others before after rfl

instance decidableAtSigmas :
    (text : List Char) → (place : List Char → List Char → Prop) →
      [∀ before after, Decidable (place before after)] →
        Decidable (AtSigmas place text)
  | [], _, _ => .isTrue fun _ _ isText => by simp at isText
  | c :: text, place, _ =>
    have := decidableAtSigmas text
      fun before after => place (before ++ [c]) after
    decidable_of_iff _ (atSigmas_cons (c := c)).symm

/-- A piece reads the same between other texts if its sigmas end words at the
same places. -/
theorem lowerBetween_congr {otherBefore otherAfter : List Char}
    (same : AtSigmas (fun left right =>
      endsWord (left ++ before) (right ++ after) =
        endsWord (left ++ otherBefore) (right ++ otherAfter)) text) :
    lowerBetween before after text =
      lowerBetween otherBefore otherAfter text := by
  induction text generalizing before otherBefore with
  | nil => rfl
  | cons c text induction =>
      have others : lowerBetween (c :: before) after text =
          lowerBetween (c :: otherBefore) otherAfter text :=
        induction (by simpa using (atSigmas_cons.mp same).2)
      have first : lowerAt before c (text ++ after) =
          lowerAt otherBefore c (text ++ otherAfter) := by
        by_cases isSigma : c = 'Σ'
        · subst isSigma
          have here := same [] text rfl
          rw [List.reverse_nil, List.nil_append, List.nil_append] at here
          rw [lowerAt_sigma, lowerAt_sigma, here]
        · exact lowerAt_congr isSigma _ _ _ _
      rw [lowerBetween, lowerBetween, first, others]

/-- The number of small sigmas of either form. -/
def sigmas (text : List Char) : Nat :=
  text.countP fun c => c == 'ς' || c == 'σ'

theorem sigmas_append (front rest : List Char) :
    sigmas (front ++ rest) = sigmas front + sigmas rest :=
  List.countP_append

theorem count_le_sigmas (text : List Char) :
    text.count 'ς' ≤ sigmas text := by
  apply List.countP_mono_left
  intro c _ isFinal
  rw [isFinal, Bool.true_or]

/-- The surroundings of a piece tell which form its sigmas have, and not how
many there are. -/
theorem sigmas_lowerBetween (before after otherBefore otherAfter : List Char) :
    sigmas (lowerBetween before after text) =
      sigmas (lowerBetween otherBefore otherAfter text) := by
  induction text generalizing before otherBefore with
  | nil => rfl
  | cons c text induction =>
      have first : sigmas (lowerAt before c (text ++ after)) =
          sigmas (lowerAt otherBefore c (text ++ otherAfter)) := by
        by_cases isSigma : c = 'Σ'
        · subst isSigma
          rw [lowerAt_sigma, lowerAt_sigma]
          split <;> split <;> rfl
        · rw [lowerAt_congr isSigma]
      rw [lowerBetween, lowerBetween, sigmas_append, sigmas_append, first,
        induction]

theorem count_lowerBetween_le {otherBefore otherAfter : List Char}
    (ends : AtSigmas (fun left right =>
      endsWord (left ++ before) (right ++ after) = true →
        endsWord (left ++ otherBefore) (right ++ otherAfter) = true) text) :
    (lowerBetween before after text).count 'ς' ≤
      (lowerBetween otherBefore otherAfter text).count 'ς' := by
  induction text generalizing before otherBefore with
  | nil => exact Nat.le_refl _
  | cons c text induction =>
      have others : (lowerBetween (c :: before) after text).count 'ς' ≤
          (lowerBetween (c :: otherBefore) otherAfter text).count 'ς' :=
        induction (by simpa using (atSigmas_cons.mp ends).2)
      have first : (lowerAt before c (text ++ after)).count 'ς' ≤
          (lowerAt otherBefore c (text ++ otherAfter)).count 'ς' := by
        by_cases isSigma : c = 'Σ'
        · subst isSigma
          have here := ends [] text rfl
          rw [List.reverse_nil, List.nil_append, List.nil_append] at here
          rw [lowerAt_sigma, lowerAt_sigma]
          split
          · rename_i isFinal
            rw [if_pos (here isFinal)]
          · exact Nat.zero_le _
        · rw [lowerAt_congr isSigma]
      rw [lowerBetween, lowerBetween, List.count_append, List.count_append]
      omega

theorem count_lowerBetween_lt {otherBefore otherAfter left right : List Char}
    (ends : AtSigmas (fun left right =>
      endsWord (left ++ before) (right ++ after) = true →
        endsWord (left ++ otherBefore) (right ++ otherAfter) = true) text)
    (isText : text = left ++ 'Σ' :: right)
    (goesOn : endsWord (left.reverse ++ before) (right ++ after) = false)
    (isEnd : endsWord (left.reverse ++ otherBefore) (right ++ otherAfter) =
      true) :
    (lowerBetween before after text).count 'ς' <
      (lowerBetween otherBefore otherAfter text).count 'ς' := by
  subst isText
  -- The final forms do not get fewer on either side of this sigma.
  have front : (lowerBetween before (('Σ' :: right) ++ after) left).count 'ς' ≤
      (lowerBetween otherBefore (('Σ' :: right) ++ otherAfter) left).count
        'ς' := by
    apply count_lowerBetween_le
    rintro start rest rfl
    have here := ends start (rest ++ 'Σ' :: right) (by simp)
    simpa using here
  have behind : (lowerBetween ('Σ' :: (left.reverse ++ before)) after
        right).count 'ς' ≤
      (lowerBetween ('Σ' :: (left.reverse ++ otherBefore)) otherAfter
        right).count 'ς' := by
    apply count_lowerBetween_le
    rintro start rest rfl
    have here := ends (left ++ 'Σ' :: start) rest (by simp)
    simpa using here
  rw [lowerBetween_append, lowerBetween_append, lowerBetween, lowerBetween,
    lowerAt_sigma, lowerAt_sigma, goesOn, isEnd]
  simp only [List.count_append]
  have plain : (['σ'] : List Char).count 'ς' = 0 := by decide
  have final : (['ς'] : List Char).count 'ς' = 1 := by decide
  simp only [Bool.false_eq_true, if_false, if_true, plain, final]
  omega

/-- If a piece in lower case occurs in the lower case of a text that holds it
and no further sigmas, it has as many final ones there as on its own. -/
theorem count_eq_of_infix {front piece rest : List Char}
    (noFront : sigmas (lower front) = 0) (noRest : sigmas (lower rest) = 0)
    (occurs : lower piece <:+: lower (front ++ (piece ++ rest))) :
    (lower piece).count 'ς' =
      (lowerBetween front.reverse rest piece).count 'ς' := by
  obtain ⟨start, finish, isText⟩ := occurs
  rw [lower_append] at isText
  have all := congrArg sigmas isText
  have finals := congrArg (List.count 'ς') isText
  simp only [sigmas_append] at all
  simp only [List.count_append] at finals
  have samePiece : sigmas (lowerBetween front.reverse rest piece) =
      sigmas (lower piece) := by
    rw [lower, ← lowerBetween_nil]
    exact sigmas_lowerBetween _ _ _ _
  have inFront : sigmas (lowerBetween [] (piece ++ rest) front) = 0 := by
    rw [← noFront, lower, ← lowerBetween_nil]
    exact sigmas_lowerBetween _ _ _ _
  have inRest : sigmas (lowerBetween (piece.reverse ++ front.reverse) []
      rest) = 0 := by
    rw [← noRest, lower, ← lowerBetween_nil]
    exact sigmas_lowerBetween _ _ _ _
  have finalsFront := count_le_sigmas (lowerBetween [] (piece ++ rest) front)
  have finalsRest := count_le_sigmas
    (lowerBetween (piece.reverse ++ front.reverse) [] rest)
  have finalsStart := count_le_sigmas start
  have finalsFinish := count_le_sigmas finish
  omega

/-- The first character that is not skipped when case is looked at. -/
def visible? (cs : List Char) : Option Char :=
  (cs.dropWhile isCaseIgnorable).head?

theorem startsCased_eq_any (cs : List Char) :
    startsCased cs = (visible? cs).any isCased := by
  rw [startsCased, visible?]
  cases cs.dropWhile isCaseIgnorable <;> rfl

theorem visible?_append (front rest : List Char) :
    visible? (front ++ rest) = (visible? front).or (visible? rest) := by
  rw [visible?, List.dropWhile_append]
  split
  · rename_i skipped
    rw [List.isEmpty_iff] at skipped
    rw [visible?, skipped]
    rfl
  · rename_i left
    rw [List.isEmpty_iff] at left
    obtain ⟨c, cs, isLeft⟩ := List.exists_cons_of_ne_nil left
    rw [visible?, isLeft]
    rfl

theorem startsCased_append {front : List Char}
    (cased : startsCased front = true) (rest : List Char) :
    startsCased (front ++ rest) = true := by
  rw [startsCased_eq_any] at cased ⊢
  rw [visible?_append]
  obtain ⟨c, isFirst, isCased⟩ := (Option.any_eq_true _ _).mp cased
  rw [isFirst]
  exact isCased

theorem endsWord_append_before (isEnd : endsWord before after = true)
    (further : List Char) : endsWord (before ++ further) after = true := by
  rw [endsWord, Bool.and_eq_true] at isEnd ⊢
  exact ⟨startsCased_append isEnd.1 further, isEnd.2⟩

theorem endsWord_of_append_after {further : List Char}
    (isEnd : endsWord before (after ++ further) = true) :
    endsWord before after = true := by
  rw [endsWord, Bool.and_eq_true, Bool.not_eq_true'] at isEnd ⊢
  refine ⟨isEnd.1, Bool.eq_false_iff.mpr fun cased => ?_⟩
  rw [startsCased_append cased] at isEnd
  cases isEnd.2

/-- Whether a sigma between these texts ends a word does not depend on what
stands further away: a cased character follows, or one without case comes
before, or there is something to be looked at on either side. -/
def IsSettled (before after : List Char) : Prop :=
  (visible? after).any isCased = true ∨
    (visible? before).any (fun c => !isCased c) = true ∨
    ((visible? before).isSome = true ∧ (visible? after).isSome = true)

instance (before after : List Char) : Decidable (IsSettled before after) :=
  inferInstanceAs (Decidable (_ ∨ _ ∨ _))

theorem IsSettled.endsWord_append (settled : IsSettled before after)
    (furtherBefore furtherAfter : List Char) :
    endsWord (before ++ furtherBefore) (after ++ furtherAfter) =
      endsWord before after := by
  simp only [endsWord, startsCased_eq_any, visible?_append]
  rw [IsSettled] at settled
  cases isBefore : visible? before <;> cases isAfter : visible? after <;>
    simp_all

/-- A sigma that is not settled goes on a word in the text and ends one when a
letter is put in front, or it ends a word and does not do so when a letter is
put behind. -/
theorem cases_of_not_isSettled (unsettled : ¬IsSettled before after) :
    (endsWord before after = false ∧ endsWord (before ++ ['a']) after = true) ∨
      (endsWord before after = true ∧
        endsWord before (after ++ ['a']) = false) := by
  have letter : visible? ['a'] = some 'a' := by decide
  have cased : isCased 'a' = true := by decide
  simp only [endsWord, startsCased_eq_any, visible?_append, letter]
  rw [IsSettled] at unsettled
  cases isBefore : visible? before <;> cases isAfter : visible? after <;>
    simp_all

end Polystore.Text
