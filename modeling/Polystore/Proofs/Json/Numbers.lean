import Polystore.Proofs.Json.Parts

/-!
# The texts of numbers

A number is written as digits, perhaps with a sign in front and perhaps with a
fraction and an exponent behind.  Floats need not be read back as they were,
but what such a text is read as does not depend on what stands behind it, as
long as that ends the number.
-/

namespace Polystore

namespace Reading

open Numeral

structure IsRun (digits : List Char) : Prop where
  nonempty : digits ≠ []
  areDigits : ∀ c ∈ digits, c.isDigit = true

/-- An exponent with its sign, if there is one. -/
inductive IsExponent : List Char → Prop where
  | absent : IsExponent []
  | present {sign : Char} {digits : List Char} :
      sign = '+' ∨ sign = '-' → IsRun digits →
      IsExponent ('e' :: sign :: digits)

/-- What stands behind the whole digits of a number. -/
inductive IsTail : List Char → Prop where
  | whole {exponent : List Char} : IsExponent exponent → IsTail exponent
  | fraction {places exponent : List Char} :
      IsRun places → IsExponent exponent →
      IsTail ('.' :: (places ++ exponent))

/-- A number without a sign. -/
def IsMagnitude (text : List Char) : Prop :=
  ∃ digits tail, IsWhole digits ∧ IsTail tail ∧ text = digits ++ tail

theorem IsRun.append {digits others : List Char} (run : IsRun digits)
    (areDigits : ∀ c ∈ others, c.isDigit = true) : IsRun (digits ++ others) := by
  constructor
  · simp [run.nonempty]
  · intro c member
    rcases List.mem_append.mp member with inFirst | inSecond
    · exact run.areDigits c inFirst
    · exact areDigits c inSecond

theorem IsRun.isWhole {digit : Char} {digits : List Char}
    (run : IsRun (digit :: digits)) (notZero : digit ≠ '0') :
    IsWhole (digit :: digits) :=
  ⟨run.areDigits, .inr ⟨digit, digits, rfl, notZero⟩⟩

theorem isDigit_of_mem_zeros (amount : Nat) :
    ∀ c ∈ List.replicate amount '0', c.isDigit = true := by
  intro c member
  rw [List.eq_of_mem_replicate member]
  rfl

theorem isRun_decimalText (n : Nat) : IsRun (decimalText n) :=
  ⟨Nat.toDigits_ne_nil, fun _ => isDigit_of_mem_decimalText⟩

theorem isExponent_tail (exponent : Int) :
    IsExponent ('e' :: (if exponent < 0 then '-' else '+') ::
      decimalText exponent.natAbs) := by
  apply IsExponent.present
  · by_cases negative : exponent < 0
    · exact .inr (if_pos negative)
    · exact .inl (if_neg negative)
  · exact isRun_decimalText exponent.natAbs

theorem isMagnitude_decimalText (n : Nat) : IsMagnitude (decimalText n) :=
  ⟨decimalText n, [], isWhole_decimalText n, .whole .absent,
    (List.append_nil _).symm⟩

theorem isMagnitude_exponentText {digit : Char} {digits : List Char}
    (run : IsRun (digit :: digits)) (notZero : digit ≠ '0') (exponent : Int) :
    IsMagnitude (exponentText (digit :: digits) exponent) := by
  have isDigit := run.areDigits digit List.mem_cons_self
  have single : IsRun [digit] := ⟨by simp, by simpa using isDigit⟩
  have isExponent := isExponent_tail exponent
  cases digits with
  | nil => exact ⟨_, _, single.isWhole notZero, .whole isExponent, rfl⟩
  | cons next digits =>
      have places : IsRun (next :: digits) :=
        ⟨by simp, fun c member =>
          run.areDigits c (List.mem_cons_of_mem _ member)⟩
      exact ⟨_, _, single.isWhole notZero, .fraction places isExponent, rfl⟩

theorem isMagnitude_positionalText {digit : Char} {digits : List Char}
    (run : IsRun (digit :: digits)) (notZero : digit ≠ '0') (point : Int) :
    IsMagnitude
      (documentNotation.positionalText (digit :: digits) point) := by
  rw [FloatNotation.positionalText]
  by_cases small : point ≤ 0
  · have places : IsRun (List.replicate (-point).toNat '0' ++
        digit :: digits) := by
      constructor
      · simp
      · intro c member
        rcases List.mem_append.mp member with padding | isDigit
        · exact isDigit_of_mem_zeros _ c padding
        · exact run.areDigits c isDigit
    rw [if_pos small]
    refine ⟨['0'], _, ⟨by simp, .inl rfl⟩, .fraction places .absent, ?_⟩
    rw [List.append_nil]
    rfl
  · obtain ⟨before, isPoint⟩ : ∃ before, point.toNat = before + 1 :=
      ⟨point.toNat - 1, by omega⟩
    have whole : IsRun (digit :: digits.take before) := by
      constructor
      · simp
      · intro c member
        apply run.areDigits
        exact (List.take_subset (before + 1) (digit :: digits)) member
    rw [if_neg small]
    simp only [isPoint, List.take_succ_cons, List.drop_succ_cons]
    cases isFraction : digits.drop before with
    | nil =>
        have point : IsRun ['0'] := ⟨by simp, by simp⟩
        have padded := whole.append
          (isDigit_of_mem_zeros (before + 1 - (digits.length + 1)))
        refine ⟨_, _, padded.isWhole notZero, .fraction point .absent, ?_⟩
        simp [documentNotation]
    | cons next places =>
        have run : IsRun (next :: places) := by
          constructor
          · simp
          · intro c member
            rw [← isFraction] at member
            apply run.areDigits
            exact List.mem_cons_of_mem _ (List.mem_of_mem_drop member)
        refine ⟨_, _, whole.isWhole notZero, .fraction run .absent, ?_⟩
        simp

theorem isMagnitude_text (value : Decimal) :
    IsMagnitude (documentNotation.text value) := by
  rw [FloatNotation.text]
  by_cases zero : value.significand = 0
  · have point : IsRun ['0'] := ⟨by simp, by simp⟩
    rw [if_pos (by simpa using zero)]
    exact ⟨['0'], _, ⟨by simp, .inl rfl⟩, .fraction point .absent, rfl⟩
  · have run := isRun_decimalText value.significand
    obtain ⟨digit, digits, text, notZero⟩ :=
      decimalText_of_pos (Nat.pos_of_ne_zero zero)
    rw [text] at run
    rw [if_neg (by simpa using zero), text]
    simp only [documentNotation]
    split
    · exact isMagnitude_positionalText run notZero _
    · exact isMagnitude_exponentText run notZero _

/-- If a text is read at all, it is read up to its end and as the same tree
whatever else ends it. -/
def Settles (reader : List Char → Attempt (Written × Rest))
    (text : List Char) : Prop :=
  ∀ ⦃rest tree left⦄, Delimited rest →
    reader (text ++ rest) = .ok (tree, left) →
      left = rest ∧
        ∀ other, Delimited other → reader (text ++ other) = .ok (tree, other)

theorem Settles.of_eq {reader other : List Char → Attempt (Written × Rest)}
    {text tail : List Char} (settles : Settles other tail)
    (same : ∀ rest, Delimited rest →
      reader (text ++ rest) = other (tail ++ rest)) : Settles reader text := by
  intro rest tree left delimited read
  rw [same rest delimited] at read
  obtain ⟨ends, others⟩ := settles delimited read
  refine ⟨ends, ?_⟩
  intro other otherDelimited
  rw [same other otherDelimited]
  exact others other otherDelimited

theorem settles_floatResult (strict negative : Bool) (value : Option Float) :
    Settles (floatResult strict negative value) [] := by
  intro rest tree left _ read
  rw [List.nil_append] at read
  cases value with
  | some magnitude =>
      cases read
      exact ⟨rfl, fun _ _ => rfl⟩
  | none =>
      cases strict with
      | true => cases read
      | false =>
          cases read
          exact ⟨rfl, fun _ _ => rfl⟩

/-- The digits of an exponent are kept, or their rest is passed over. -/
theorem exponentDigits_append (value : Nat) {digits : List Char}
    (areDigits : ∀ c ∈ digits, c.isDigit = true) :
    (∃ exponent, ∀ rest, Delimited rest →
      exponentDigits value (digits ++ rest) = (some exponent, rest)) ∨
    (∃ left, (∀ c ∈ left, c.isDigit = true) ∧ ∀ rest,
      exponentDigits value (digits ++ rest) = (none, left ++ rest)) := by
  induction digits generalizing value with
  | nil =>
      left
      refine ⟨value, ?_⟩
      intro rest delimited
      cases rest with
      | nil => rfl
      | cons c cs =>
          have noDigit := (delimited c cs rfl).1
          rw [List.nil_append, exponentDigits, noDigit]
          rfl
  | cons c digits induction =>
      obtain ⟨isDigit, others⟩ := List.forall_mem_cons.mp areDigits
      by_cases large : value * 10 + digitValue c > maxExponent
      · right
        refine ⟨digits, others, ?_⟩
        intro rest
        simp only [List.cons_append, exponentDigits, isDigit, if_true, large]
      · have next : ∀ rest, exponentDigits value (c :: digits ++ rest) =
            exponentDigits (value * 10 + digitValue c) (digits ++ rest) := by
          intro rest
          simp only [List.cons_append, exponentDigits, isDigit, if_true, large,
            if_false]
        simp only [next]
        exact induction _ others

theorem dropWhile_isDigit_append {digits rest : List Char}
    (areDigits : ∀ c ∈ digits, c.isDigit = true) (delimited : Delimited rest) :
    (digits ++ rest).dropWhile Char.isDigit = rest :=
  (Text.takeWhile_dropWhile_append areDigits
    fun c cs same => (delimited c cs same).1).2

theorem settles_withExponent (strict negative : Bool) (value : Scaled)
    {sign : Char} {digits : List Char} (isSign : sign = '+' ∨ sign = '-')
    (run : IsRun digits) :
    Settles (withExponent strict negative value) (sign :: digits) := by
  obtain ⟨digit, more, rfl⟩ := List.exists_cons_of_ne_nil run.nonempty
  have isDigit := run.areDigits digit List.mem_cons_self
  obtain ⟨falling, splits⟩ : ∃ falling, ∀ cs,
      splitSign (sign :: cs) = (falling, cs) := by
    rcases isSign with rfl | rfl
    · exact ⟨false, fun _ => rfl⟩
    · exact ⟨true, fun _ => rfl⟩
  rcases exponentDigits_append 0 run.areDigits with
    ⟨exponent, kept⟩ | ⟨left, areDigits, dropped⟩
  · apply (settles_floatResult strict negative ({ value with exponent :=
      if falling then value.exponent - exponent
      else value.exponent + exponent }.float)).of_eq
    intro rest delimited
    have exponentIs := kept rest delimited
    simp only [List.cons_append] at exponentIs ⊢
    simp only [withExponent, splits, isDigit, Bool.not_true,
      Bool.false_eq_true, if_false, exponentIs, List.nil_append]
  · have unfolded : ∀ rest, Delimited rest →
        withExponent strict negative value (sign :: digit :: more ++ rest) =
          if falling || value.significand == 0 then
            floatResult strict negative (some 0.0) rest
          else if strict then stopBefore .numberOutOfRange (left ++ rest)
          else .ok (.unreadable, rest) := by
      intro rest delimited
      have exponentIs := dropped rest
      simp only [List.cons_append] at exponentIs ⊢
      simp only [withExponent, splits, isDigit, Bool.not_true,
        Bool.false_eq_true, if_false, exponentIs,
        dropWhile_isDigit_append areDigits delimited]
    by_cases vanishes : (falling || value.significand == 0) = true
    · apply (settles_floatResult strict negative (some 0.0)).of_eq
      intro rest delimited
      rw [unfolded rest delimited, if_pos vanishes, List.nil_append]
    · cases strict with
      | true =>
          intro rest tree left delimited read
          rw [unfolded rest delimited, if_neg vanishes] at read
          cases read
      | false =>
          apply (settles_floatResult false negative none).of_eq
          intro rest delimited
          rw [unfolded rest delimited, if_neg vanishes]
          rfl

theorem settles_withFraction (strict negative : Bool) (value : Scaled)
    {places exponent : List Char} (run : IsRun places)
    (isExponent : IsExponent exponent) :
    Settles (withFraction strict negative value) (places ++ exponent) := by
  have nonempty : places.isEmpty = false := by
    simpa using run.nonempty
  cases isExponent with
  | absent =>
      apply (settles_floatResult strict negative
        (value.addFraction places).float).of_eq
      intro rest delimited
      obtain ⟨taken, dropped⟩ := Text.takeWhile_dropWhile_append
        run.areDigits fun c cs same => (delimited c cs same).1
      rw [List.append_nil, withFraction]
      simp only [taken, dropped, nonempty, Bool.false_eq_true, if_false]
      cases rest with
      | nil => rfl
      | cons c cs =>
          obtain ⟨_, _, noSmall, noLarge⟩ := delimited c cs rfl
          split
          · rename_i same
            exact absurd (List.cons.inj same).1 noSmall
          · rename_i same
            exact absurd (List.cons.inj same).1 noLarge
          · rfl
  | @present sign digits isSign digitsRun =>
      apply (settles_withExponent strict negative (value.addFraction places)
        isSign digitsRun).of_eq
      intro rest delimited
      have stops : ∀ c cs, 'e' :: sign :: digits ++ rest = c :: cs →
          c.isDigit = false := by
        intro c cs same
        cases same
        decide
      obtain ⟨taken, dropped⟩ :=
        Text.takeWhile_dropWhile_append run.areDigits stops
      rw [List.append_assoc, withFraction]
      simp only [taken, dropped, nonempty, Bool.false_eq_true, if_false]
      rfl

theorem settles_afterWhole (strict negative : Bool) (digits : List Char)
    {tail : List Char} (isTail : IsTail tail) :
    Settles (afterWhole strict negative digits) tail := by
  cases isTail with
  | whole isExponent =>
      cases isExponent with
      | absent =>
          cases full : (Scaled.addWhole false ⟨0, 0⟩ digits).1 with
          | true =>
              apply (settles_floatResult strict negative
                (Scaled.addWhole false ⟨0, 0⟩ digits).2.float).of_eq
              intro rest delimited
              rw [List.nil_append,
                afterWhole_of_delimited strict negative digits delimited, full]
              rfl
          | false =>
              have whole : ∀ rest, Delimited rest →
                  afterWhole strict negative digits rest =
                    .ok (wholeNumber negative
                      (Scaled.addWhole false ⟨0, 0⟩ digits).2.significand,
                      rest) := by
                intro rest delimited
                rw [afterWhole_of_delimited strict negative digits delimited,
                  full]
                rfl
              intro rest tree left delimited read
              rw [List.nil_append, whole rest delimited] at read
              cases read
              exact ⟨rfl, whole⟩
      | present isSign run =>
          apply (settles_withExponent strict negative
            (Scaled.addWhole false ⟨0, 0⟩ digits).2 isSign run).of_eq
          exact fun _ _ => rfl
  | fraction places isExponent =>
      apply (settles_withFraction strict negative
        (Scaled.addWhole false ⟨0, 0⟩ digits).2 places isExponent).of_eq
      exact fun _ _ => rfl

theorem settles_number (strict negative : Bool) {text : List Char}
    (magnitude : IsMagnitude text) :
    Settles (number strict negative) text := by
  obtain ⟨digits, tail, whole, isTail, rfl⟩ := magnitude
  apply (settles_afterWhole strict negative digits isTail).of_eq
  intro rest delimited
  rw [List.append_assoc]
  apply number_append strict negative whole
  intro c cs same
  cases isTail with
  | whole isExponent =>
      cases isExponent with
      | absent => exact (delimited c cs same).1
      | present =>
          cases same
          decide
  | fraction =>
      cases same
      decide

theorem isBlank_of_mem_isTail {tail : List Char} (isTail : IsTail tail) :
    ∀ c ∈ tail, Text.isBlank c = false := by
  have run : ∀ {digits : List Char}, IsRun digits →
      ∀ c ∈ digits, Text.isBlank c = false :=
    fun isRun c member => Text.isBlank_of_isDigit (isRun.areDigits c member)
  have inExponent : ∀ {exponent : List Char}, IsExponent exponent →
      ∀ c ∈ exponent, Text.isBlank c = false := by
    intro exponent isExponent
    cases isExponent with
    | absent => simp
    | present isSign isRun =>
        rw [List.forall_mem_cons, List.forall_mem_cons]
        refine ⟨by decide, ?_, run isRun⟩
        rcases isSign with rfl | rfl
        · decide
        · decide
  cases isTail with
  | whole isExponent => exact inExponent isExponent
  | fraction places isExponent =>
      rw [List.forall_mem_cons, List.forall_mem_append]
      exact ⟨by decide, run places, inExponent isExponent⟩

theorem isBlank_of_mem_isMagnitude {text : List Char}
    (magnitude : IsMagnitude text) : ∀ c ∈ text, Text.isBlank c = false := by
  obtain ⟨digits, tail, whole, isTail, rfl⟩ := magnitude
  rw [List.forall_mem_append]
  constructor
  · exact fun c member => Text.isBlank_of_isDigit (whole.areDigits c member)
  · exact isBlank_of_mem_isTail isTail

theorem isDigit_head_of_isMagnitude {text : List Char}
    (magnitude : IsMagnitude text) :
    ∃ c cs, text = c :: cs ∧ c.isDigit = true := by
  obtain ⟨digits, tail, whole, -, rfl⟩ := magnitude
  rcases whole.begins with rfl | ⟨c, cs, rfl, -⟩
  · exact ⟨'0', tail, rfl, rfl⟩
  · exact ⟨c, cs ++ tail, rfl, whole.areDigits c List.mem_cons_self⟩

theorem skip_cons {c : Char} (noSeparator : isSeparator c = false)
    (cs : List Char) : skip (c :: cs) = c :: cs := by
  simp [skip, noSeparator]

theorem isSeparator_of_isDigit {c : Char} (isDigit : c.isDigit = true) :
    isSeparator c = false := by
  rw [← Bool.not_eq_true]
  intro separates
  simp only [isSeparator, Bool.or_eq_true, beq_iff_eq] at separates
  rcases separates with ((rfl | rfl) | rfl) | rfl <;> simp at isDigit

theorem value_digit (strict : Bool) (depth steps : Nat) {c : Char}
    (isDigit : c.isDigit = true) (cs : List Char) :
    value strict depth (steps + 1) (c :: cs) =
      number strict false (c :: cs) := by
  rw [value, skip_cons (isSeparator_of_isDigit isDigit)]
  split
  case h_9 same =>
    cases same
    exact if_pos isDigit
  all_goals
    rename_i same
    cases same
  all_goals simp at isDigit

def signed (negative : Bool) (text : List Char) : List Char :=
  if negative then '-' :: text else text

theorem isBlank_of_mem_signed (negative : Bool) {text : List Char}
    (magnitude : IsMagnitude text) :
    ∀ c ∈ signed negative text, Text.isBlank c = false := by
  have plain := isBlank_of_mem_isMagnitude magnitude
  cases negative with
  | true => exact List.forall_mem_cons.mpr ⟨by decide, plain⟩
  | false => exact plain

theorem value_signed (strict : Bool) (depth steps : Nat) (negative : Bool)
    {text : List Char} (magnitude : IsMagnitude text) (rest : List Char) :
    value strict depth (steps + 1) (signed negative text ++ rest) =
      number strict negative (text ++ rest) := by
  cases negative with
  | true =>
      show value strict depth (steps + 1) ('-' :: (text ++ rest)) = _
      rw [value, skip_cons (by decide : isSeparator '-' = false)]
      rfl
  | false =>
      obtain ⟨c, cs, rfl, isDigit⟩ := isDigit_head_of_isMagnitude magnitude
      exact value_digit strict depth steps isDigit (cs ++ rest)

theorem chars_integer (n : Int) :
    (Json.integer n).chars = signed (decide (n < 0)) (decimalText n.natAbs) := by
  by_cases negative : n < 0
  · simp [Json.chars, integerText, signed, negative]
  · simp [Json.chars, integerText, signed, negative]

theorem chars_float {value : Float} (finite : value.isFinite = true) :
    (Json.float value).chars = signed (isNegative value)
      (documentNotation.text (Dyadic.ofFloat value).shortest) := by
  simp only [Json.chars, finite, if_true, documentFloat, FloatNotation.finite,
    String.toList_ofList, signed]

end Reading

end Polystore
