import Polystore.Proofs.Query.Grammar
import Polystore.Proofs.Query.Select

/-!
# How a statement ends

A statement ends with a limit, if it has one, and at most one semicolon.  No
end of a statement holds a mark or a sign, and what is left of an end shows in
its last character.
-/

namespace Polystore

open Text Grammar

theorem not_mem_of_spells {letters word : List Char} {c : Char}
    (spells : Spells letters word)
    (unlike : letters.any (foldsTo · c) = false) : c ∉ word := by
  induction spells with
  | nil => simp
  | cons folds _ induction =>
      rw [List.any_cons, Bool.or_eq_false_iff] at unlike
      obtain ⟨differs, others⟩ := unlike
      rw [List.mem_cons, not_or]
      refine ⟨?_, induction others⟩
      rintro rfl
      rw [differs] at folds
      cases folds

theorem isBlank_of_mem_spells {letters word : List Char} {c : Char}
    (spells : Spells letters word)
    (noBlank : ∀ letter ∈ letters, isBlank letter = false)
    (member : c ∈ word) : isBlank c = false := by
  by_contra blank
  refine not_mem_of_spells spells (List.any_eq_false.mpr ?_) member
  intro letter isLetter folds
  exact blank (isBlank_of_foldsTo folds (noBlank letter isLetter))

namespace Outline

theorem append_mem_end {digits : Option (List Char)}
    {gap ending : List Char} (areBlank : gap ∈ blanks)
    (ends : ending ∈ limits digits * closings) :
    gap ++ ending ∈ limits digits * closings := by
  have join : ∀ more ∈ blanks, gap ++ more ∈ blanks :=
    fun more blankMore c member =>
      (List.mem_append.mp member).elim (areBlank c) (blankMore c)
  cases digits with
  | none =>
      rw [limits, one_mul] at ends ⊢
      obtain ⟨lead, blankLead, rest, isRest, rfl⟩ := ends
      exact ⟨gap ++ lead, join lead blankLead, rest, isRest, by simp⟩
  | some digits =>
      obtain ⟨limit, isLimit, closing, isClosing, rfl⟩ := ends
      obtain ⟨lead, ⟨nonempty, blankLead⟩, rest, isRest, rfl⟩ := isLimit
      refine ⟨(gap ++ lead) ++ rest, ?_, closing, isClosing, by simp⟩
      exact Language.append_mem_mul
        ⟨by simp [nonempty], join lead blankLead⟩ isRest

theorem mem_closing {closing : List Char} (isClosing : closing ∈ closings) :
    ∀ c ∈ closing, isBlank c = true ∨ c = ';' := by
  obtain ⟨before, blankBefore, _, ⟨middle, isMiddle, after, blankAfter, rfl⟩,
    rfl⟩ := isClosing
  intro c member
  simp only [List.mem_append] at member
  rcases member with inBefore | inMiddle | inAfter
  · exact .inl (blankBefore c inBefore)
  · rcases isMiddle with isEmpty | isSemicolon
    · rw [(Language.mem_one middle).mp isEmpty] at inMiddle
      cases inMiddle
    · rw [isSemicolon, List.mem_singleton] at inMiddle
      exact .inr inMiddle
  · exact .inl (blankAfter c inAfter)

variable {digits : Option (List Char)} {ending : List Char}

theorem not_mem_end
    (areDigits : ∀ numeral, digits = some numeral → numeral ∈ numerals)
    (ends : ending ∈ limits digits * closings) {c : Char}
    (special : IsMark c ∨ IsSign c) : c ∉ ending := by
  have notBlank : isBlank c = false := by
    rcases special with (rfl | rfl) | (rfl | rfl | rfl | rfl) <;> decide
  have notDigit : isDecimalDigit c = false := by
    rcases special with (rfl | rfl) | (rfl | rfl | rfl | rfl) <;> decide
  have notSemicolon : c ≠ ';' := by
    rcases special with (rfl | rfl) | (rfl | rfl | rfl | rfl) <;> decide
  have unlike : ['l', 'i', 'm', 'i', 't'].any (foldsTo · c) = false := by
    rcases special with (rfl | rfl) | (rfl | rfl | rfl | rfl) <;> decide
  have notInBlanks : ∀ gap ∈ blanks, c ∉ gap := fun gap areBlank member => by
    simp [areBlank c member] at notBlank
  obtain ⟨limit, isLimit, closing, isClosing, rfl⟩ := ends
  rw [List.mem_append, not_or]
  constructor
  · cases digits with
    | none =>
        cases (Language.mem_one limit).mp isLimit
        simp
    | some numeral =>
        obtain ⟨before, gapBefore, _, ⟨word, spells, _, ⟨after, gapAfter, _,
          rfl, rfl⟩, rfl⟩, rfl⟩ := isLimit
        simp only [List.mem_append, not_or]
        refine ⟨notInBlanks before gapBefore.2,
          not_mem_of_spells spells unlike, notInBlanks after gapAfter.2, ?_⟩
        intro member
        simp [(areDigits _ rfl).2 c member] at notDigit
  · intro member
    rcases mem_closing isClosing c member with blank | isSemicolon
    · simp [blank] at notBlank
    · exact notSemicolon isSemicolon

theorem last_of_end
    (areDigits : ∀ numeral, digits = some numeral → numeral ∈ numerals)
    (ends : ending ∈ limits digits * closings) :
    ∀ c ∈ ending.getLast?,
      isBlank c = true ∨ c = ';' ∨ isDecimalDigit c = true := by
  obtain ⟨limit, isLimit, closing, isClosing, rfl⟩ := ends
  intro c isLast
  cases lastOfClosing : closing.getLast? with
  | some d =>
      rw [List.getLast?_append, lastOfClosing, Option.some_or,
        Option.mem_some_iff] at isLast
      subst isLast
      rcases mem_closing isClosing d (List.mem_of_getLast? lastOfClosing) with
        blank | isSemicolon
      · exact .inl blank
      · exact .inr (.inl isSemicolon)
  | none =>
      rw [List.getLast?_append, lastOfClosing, Option.none_or] at isLast
      cases digits with
      | none =>
          cases (Language.mem_one limit).mp isLimit
          cases isLast
      | some numeral =>
          obtain ⟨nonempty, areDigit⟩ := areDigits numeral rfl
          rcases List.eq_nil_or_concat numeral with isEmpty |
            ⟨front, d, rfl⟩
          · exact absurd isEmpty nonempty
          obtain ⟨before, _, _, ⟨word, _, _, ⟨after, _, _, rfl, rfl⟩, rfl⟩,
            rfl⟩ := isLimit
          have same : d = c := by simpa using isLast
          exact .inr (.inr (areDigit c (by simp [same])))

end Outline

namespace Select

open Outline

theorem mem_closings {cs : List Char} (closed : closes cs = true) :
    cs ∈ closings := by
  obtain ⟨gap, areBlank, isGap⟩ := exists_blanks_append_skipBlanks cs
  unfold closes at closed
  split at closed
  · rename_i nothing
    rw [nothing] at isGap
    exact ⟨gap, areBlank, [], ⟨[], .inl rfl, [], by simp [blanks], rfl⟩,
      isGap.symm⟩
  · rename_i c rest behind
    obtain ⟨isSemicolon, nothing⟩ := Bool.and_eq_true_iff.mp closed
    obtain ⟨after, blankAfter, isAfter⟩ := exists_blanks_append_skipBlanks rest
    rw [List.isEmpty_iff.mp nothing, List.append_nil] at isAfter
    rw [behind, beq_iff_eq.mp isSemicolon, isAfter] at isGap
    exact ⟨gap, areBlank, ';' :: after,
      ⟨[';'], .inr rfl, after, blankAfter, rfl⟩, isGap.symm⟩

theorem limitDigits?_eq_some {cs digits : List Char}
    (read : limitDigits? cs = some digits) :
    digits ∈ numerals ∧ cs ∈ limits (some digits) * closings := by
  simp only [limitDigits?, Option.bind_eq_bind, Option.bind_eq_some_iff]
    at read
  obtain ⟨behindGap, isGap, behindWord, isWord, behindBlanks, isBlanks, ends⟩ :=
    read
  obtain ⟨-, before, nonemptyBefore, blankBefore, rfl⟩ :=
    afterBlanks?_eq_some isGap
  obtain ⟨word, spells, rfl⟩ := afterKeyword?_eq_some_iff.mp isWord
  obtain ⟨-, after, nonemptyAfter, blankAfter, rfl⟩ :=
    afterBlanks?_eq_some isBlanks
  split at ends
  · rename_i accepted
    rw [Bool.and_eq_true, Bool.not_eq_true', List.isEmpty_eq_false_iff]
      at accepted
    cases ends
    refine ⟨⟨accepted.1, List.all_eq_true.mp List.all_takeWhile⟩, ?_⟩
    refine ⟨before ++ (word ++
      (after ++ behindBlanks.takeWhile isDecimalDigit)), ?_,
      behindBlanks.dropWhile isDecimalDigit, mem_closings accepted.2, by simp⟩
    exact Language.append_mem_mul ⟨nonemptyBefore, blankBefore⟩ <|
      Language.append_mem_mul spells <|
        Language.append_mem_mul ⟨nonemptyAfter, blankAfter⟩ rfl
  · cases ends

theorem ending?_eq_some {cs : List Char} {digits : Option (List Char)}
    (read : ending? cs = some digits) :
    (∀ numeral, digits = some numeral → numeral ∈ numerals) ∧
      cs ∈ limits digits * closings := by
  unfold ending? at read
  split at read
  · rename_i numeral isLimit
    cases read
    obtain ⟨isNumeral, ends⟩ := limitDigits?_eq_some isLimit
    refine ⟨?_, ends⟩
    rintro _ ⟨⟩
    exact isNumeral
  · split at read
    · rename_i closed
      cases read
      refine ⟨by simp, ?_⟩
      rw [limits, one_mul]
      exact mem_closings closed
    · cases read

theorem ending?_eq_none_of_mem {cs : List Char} {c : Char}
    (special : IsMark c ∨ IsSign c) (member : c ∈ cs) : ending? cs = none := by
  cases read : ending? cs with
  | none => rfl
  | some digits =>
      obtain ⟨areDigits, ends⟩ := ending?_eq_some read
      exact absurd member (not_mem_end areDigits ends special)

theorem clauseAndEnding?_eq_some {cs clause : List Char}
    {digits : Option (List Char)}
    (read : clauseAndEnding? cs = some (clause, digits)) :
    ∃ ending, cs = clause ++ ending ∧ ending? ending = some digits := by
  induction cs generalizing clause with
  | nil => cases read
  | cons c cs induction =>
      rw [clauseAndEnding?] at read
      split at read
      · rename_i ends
        cases read
        exact ⟨cs, rfl, ends⟩
      · obtain ⟨⟨rest, other⟩, isRest, same⟩ := Option.map_eq_some_iff.mp read
        cases same
        obtain ⟨ending, rfl, ends⟩ := induction isRest
        exact ⟨ending, rfl, ends⟩

end Select

end Polystore
