import Polystore.Proofs.Query.Grammar

/-!
# How a clause is cut

The scan of a clause cuts it at the bare word `and`.  Every part that it
yields runs on without a connective, and between two parts stands the word
with a blank of ASCII on either side.
-/

namespace Polystore

namespace Conjunction

open Text Grammar

/-- Letters that fold to no character beyond ASCII. -/
def IsPlainKeyword (keyword : List Char) : Prop :=
  ∀ letter ∈ keyword, letter.toLower = letter ∧ letter ≠ 's' ∧
    letter ≠ 'k' ∧ isBlank letter = false

instance (keyword : List Char) : Decidable (IsPlainKeyword keyword) :=
  List.decidableBAll _ keyword

theorem IsPlainKeyword.isBlank_eq_false {keyword : List Char}
    (isPlain : IsPlainKeyword keyword) :
    ∀ letter ∈ keyword, isBlank letter = false := by
  intro letter member
  obtain ⟨_, _, _, noBlank⟩ := isPlain letter member
  exact noBlank

theorem isPlainKeyword_and : IsPlainKeyword ['a', 'n', 'd'] := by
  decide

theorem isPlainKeyword_or : IsPlainKeyword ['o', 'r'] := by
  decide

theorem spells_iff_equalsIgnoringAsciiCase {keyword text : List Char}
    (isPlain : IsPlainKeyword keyword) :
    Spells keyword text ↔ equalsIgnoringAsciiCase text keyword = true := by
  rw [equalsIgnoringAsciiCase, beq_iff_eq, Spells]
  induction keyword generalizing text with
  | nil => cases text <;> simp
  | cons letter keyword induction =>
      obtain ⟨⟨lower, notS, notK, _⟩, others⟩ := List.forall_mem_cons.mp isPlain
      cases text with
      | nil => simp
      | cons c cs =>
          have folds : foldsTo letter c = true ↔ c.toLower = letter := by
            simp [foldsTo, notS, notK]
          rw [List.forall₂_cons, folds, induction others, List.map_cons,
            List.map_cons, List.cons.injEq, lower]

theorem startsWithKeyword_iff {keyword cs : List Char}
    (isPlain : IsPlainKeyword keyword) :
    startsWithKeyword keyword cs = true ↔
      ∃ word rest, Spells keyword word ∧ cs = word ++ rest ∧
        ∀ c ∈ rest.head?, isAsciiBlank c = true := by
  constructor
  · intro starts
    rw [startsWithKeyword, Bool.and_eq_true] at starts
    refine ⟨cs.take keyword.length, cs.drop keyword.length,
      (spells_iff_equalsIgnoringAsciiCase isPlain).mpr starts.1,
      (List.take_append_drop _ _).symm, ?_⟩
    simpa [Option.all_eq_true] using starts.2
  · rintro ⟨word, rest, spells, rfl, ends⟩
    have sameLength : word.length = keyword.length := spells.length_eq.symm
    rw [startsWithKeyword, ← sameLength, List.take_left, List.drop_left,
      (spells_iff_equalsIgnoringAsciiCase isPlain).mp spells]
    simpa [Option.all_eq_true] using ends

theorem skipBlanks_keyword {letter : Char} {keyword gap word rest : List Char}
    (noBlank : isBlank letter = false) (areBlank : gap ∈ blanks)
    (spells : Spells (letter :: keyword) word) :
    skipBlanks (gap ++ (word ++ rest)) = word ++ rest := by
  apply skipBlanks_append areBlank
  intro c cs isText
  cases spells with
  | cons folds _ =>
      cases isText
      exact isBlank_of_foldsTo folds noBlank

variable {soFar cs : List Char} {c mark : Char}

theorem unlike_of_isAsciiBlank (blank : isAsciiBlank c = true) :
    (c == '\'' || c == '"') = false ∧ (c == '(' || c == ')') = false := by
  simp only [isAsciiBlank, Bool.or_eq_true, beq_iff_eq] at blank
  rcases blank with (((rfl | rfl) | rfl) | rfl) | rfl <;> decide

theorem scan_mark (isMark : IsMark c) :
    scan .unquoted soFar (c :: cs) = scan (.quoted c) (c :: soFar) cs := by
  rcases isMark with rfl | rfl <;> rfl

theorem scan_bracket (isBracket : IsBracket c) :
    scan .unquoted soFar (c :: cs) = .error .grouping := by
  rcases isBracket with rfl | rfl <;> rfl

theorem scan_plain (noMark : ¬IsMark c) (noBracket : ¬IsBracket c)
    (noBlank : isAsciiBlank c = false) :
    scan .unquoted soFar (c :: cs) = scan .unquoted (c :: soFar) cs := by
  simp only [IsMark, IsBracket] at noMark noBracket
  simp [scan, noMark, noBracket, noBlank]

theorem scan_blank (blank : isAsciiBlank c = true)
    (noAnd : startsWithKeyword ['a', 'n', 'd'] (skipBlanks cs) = false)
    (noOr : startsWithKeyword ['o', 'r'] (skipBlanks cs) = false) :
    scan .unquoted soFar (c :: cs) = scan .unquoted (c :: soFar) cs := by
  obtain ⟨noMark, noBracket⟩ := unlike_of_isAsciiBlank blank
  simp [scan, noMark, noBracket, blank, noAnd, noOr]

theorem scan_or (blank : isAsciiBlank c = true)
    (noAnd : startsWithKeyword ['a', 'n', 'd'] (skipBlanks cs) = false)
    (isOr : startsWithKeyword ['o', 'r'] (skipBlanks cs) = true) :
    scan .unquoted soFar (c :: cs) = .error .disjunction := by
  obtain ⟨noMark, noBracket⟩ := unlike_of_isAsciiBlank blank
  simp [scan, noMark, noBracket, blank, noAnd, isOr]

theorem scan_separator (left : Nat) :
    scan (.separator left) soFar cs = scan .unquoted soFar (cs.drop left) := by
  induction cs generalizing left with
  | nil =>
      rw [List.drop_nil]
      rfl
  | cons c cs induction =>
      cases left with
      | zero => rfl
      | succ left => exact induction left

theorem scan_and {gap word : List Char} (blank : isAsciiBlank c = true)
    (areBlank : gap ∈ blanks) (spells : Spells ['a', 'n', 'd'] word)
    (ends : ∀ d ∈ cs.head?, isAsciiBlank d = true) :
    scan .unquoted soFar (c :: (gap ++ (word ++ cs))) =
      (scan .unquoted [] cs).map (soFar.reverse :: ·) := by
  have skipped : skipBlanks (gap ++ (word ++ cs)) = word ++ cs :=
    skipBlanks_keyword (by decide) areBlank spells
  have starts : startsWithKeyword ['a', 'n', 'd'] (word ++ cs) = true :=
    (startsWithKeyword_iff isPlainKeyword_and).mpr
      ⟨word, cs, spells, rfl, ends⟩
  have three : word.length = 3 := spells.length_eq.symm
  have amount : (gap ++ (word ++ cs)).length - (word ++ cs).length + 3 =
      (gap ++ word).length := by
    simp only [List.length_append, three]
    omega
  have dropped : (gap ++ (word ++ cs)).drop (gap ++ word).length = cs := by
    rw [← List.append_assoc, List.drop_left]
  obtain ⟨noMark, noBracket⟩ := unlike_of_isAsciiBlank blank
  simp only [scan, noMark, noBracket, blank, skipped, starts, amount,
    Bool.false_eq_true, if_false, if_true, scan_separator, dropped]

theorem scan_quoted {body : List Char} (absent : mark ∉ body) :
    scan (.quoted mark) soFar (body ++ mark :: cs) =
      scan .unquoted (mark :: (body.reverse ++ soFar)) cs := by
  induction body generalizing soFar with
  | nil => simp [scan]
  | cons d body induction =>
      rw [List.mem_cons, not_or] at absent
      have noMark : (d == mark) = false := by simpa using Ne.symm absent.1
      rw [List.cons_append, scan, noMark, if_neg (by simp), induction absent.2]
      simp

theorem scan_openQuotation (absent : mark ∉ cs) :
    scan (.quoted mark) soFar cs = .error .unterminatedText := by
  induction cs generalizing soFar with
  | nil => rfl
  | cons d cs induction =>
      rw [List.mem_cons, not_or] at absent
      have noMark : (d == mark) = false := by simpa using Ne.symm absent.1
      rw [scan, noMark, if_neg (by simp)]
      exact induction absent.2

/-- What stands at the head of an unquoted text, as far as the scan takes it in
one go. -/
inductive Meets : List Char → Prop where
  | nil : Meets []
  | quotation {mark : Char} {body rest : List Char} :
      IsMark mark → mark ∉ body → Meets (mark :: (body ++ mark :: rest))
  | openQuotation {mark : Char} {rest : List Char} :
      IsMark mark → mark ∉ rest → Meets (mark :: rest)
  | bracket {c : Char} {rest : List Char} : IsBracket c → Meets (c :: rest)
  | and {blank : Char} {gap word rest : List Char} :
      isAsciiBlank blank = true → gap ∈ blanks →
      Spells ['a', 'n', 'd'] word →
      (∀ c ∈ rest.head?, isAsciiBlank c = true) →
      Meets (blank :: (gap ++ (word ++ rest)))
  | or {blank : Char} {rest : List Char} :
      isAsciiBlank blank = true →
      startsWithKeyword ['a', 'n', 'd'] (skipBlanks rest) = false →
      startsWithKeyword ['o', 'r'] (skipBlanks rest) = true →
      Meets (blank :: rest)
  | blank {blank : Char} {rest : List Char} :
      isAsciiBlank blank = true →
      startsWithKeyword ['a', 'n', 'd'] (skipBlanks rest) = false →
      startsWithKeyword ['o', 'r'] (skipBlanks rest) = false →
      Meets (blank :: rest)
  | plain {c : Char} {rest : List Char} :
      ¬IsMark c → ¬IsBracket c → isAsciiBlank c = false → Meets (c :: rest)

theorem meets_of_isMark (isMark : IsMark c) (cs : List Char) :
    Meets (c :: cs) := by
  by_cases closed : c ∈ cs
  · obtain ⟨body, rest, rfl, absent⟩ := List.eq_append_cons_of_mem closed
    exact .quotation isMark absent
  · exact .openQuotation isMark closed

theorem meets_of_isAsciiBlank (blank : isAsciiBlank c = true)
    (cs : List Char) : Meets (c :: cs) := by
  cases isAnd : startsWithKeyword ['a', 'n', 'd'] (skipBlanks cs) with
  | true =>
      obtain ⟨word, rest, spells, isRest, ends⟩ :=
        (startsWithKeyword_iff isPlainKeyword_and).mp isAnd
      obtain ⟨gap, areBlank, isGap⟩ := exists_blanks_append_skipBlanks cs
      rw [isGap, isRest]
      exact .and blank areBlank spells ends
  | false =>
      cases isOr : startsWithKeyword ['o', 'r'] (skipBlanks cs) with
      | true => exact .or blank isAnd isOr
      | false => exact .blank blank isAnd isOr

theorem meets (cs : List Char) : Meets cs := by
  cases cs with
  | nil => exact .nil
  | cons c cs =>
      by_cases isMark : IsMark c
      · exact meets_of_isMark isMark cs
      by_cases isBracket : IsBracket c
      · exact .bracket isBracket
      cases blank : isAsciiBlank c with
      | true => exact meets_of_isAsciiBlank blank cs
      | false => exact .plain isMark isBracket blank

theorem map_eq_ok {ε α β : Type} {f : α → β} {result : Except ε α} {value : β}
    (success : result.map f = .ok value) :
    ∃ before, result = .ok before ∧ f before = value := by
  cases result with
  | error reason => cases success
  | ok before =>
      cases success
      exact ⟨before, rfl, rfl⟩

/-- The clause is cut into these parts. -/
inductive Cut : List Char → List (List Char) → Prop where
  | last {part : List Char} : RunsOn part → Cut part [part]
  | and {part gap word rest : List Char} {blank : Char}
      {parts : List (List Char)} :
      RunsOn part → isAsciiBlank blank = true → gap ∈ blanks →
      Spells ['a', 'n', 'd'] word →
      (∀ c ∈ rest.head?, isAsciiBlank c = true) → Cut rest parts →
      Cut (part ++ blank :: (gap ++ (word ++ rest))) (part :: parts)

theorem Cut.exists_append {rest part : List Char} {others : List (List Char)}
    (cut : Cut rest (part :: others)) : ∃ after, rest = part ++ after := by
  cases cut with
  | last runs => exact ⟨[], (List.append_nil rest).symm⟩
  | and runs blank areBlank spells ends cut => exact ⟨_, rfl⟩

/-- What stands before the first part belongs to it, if it runs on there. -/
theorem Cut.prepend {rest part : List Char} {others : List (List Char)}
    (cut : Cut rest (part :: others)) (start : List Char)
    (runsOn : RunsOn part → RunsOn (start ++ part)) :
    Cut (start ++ rest) ((start ++ part) :: others) := by
  cases cut with
  | last runs => exact .last (runsOn runs)
  | and runs blank areBlank spells ends cut =>
      rw [← List.append_assoc]
      exact .and (runsOn runs) blank areBlank spells ends cut

end Conjunction

namespace Grammar

open Text Conjunction

theorem ConnectiveAhead.starts {text : List Char}
    (ahead : ConnectiveAhead text) :
    startsWithKeyword ['a', 'n', 'd'] (skipBlanks text) = true ∨
      startsWithKeyword ['o', 'r'] (skipBlanks text) = true := by
  obtain ⟨gap, areBlank, word, spells, blank, rest, isBlank, rfl⟩ := ahead
  rcases spells with spells | spells
  · left
    rw [skipBlanks_keyword (by decide) areBlank spells]
    exact (startsWithKeyword_iff isPlainKeyword_and).mpr
      ⟨word, blank :: rest, spells, rfl, by simpa using isBlank⟩
  · right
    rw [skipBlanks_keyword (by decide) areBlank spells]
    exact (startsWithKeyword_iff isPlainKeyword_or).mpr
      ⟨word, blank :: rest, spells, rfl, by simpa using isBlank⟩

end Grammar

namespace Conjunction

open Text Grammar

/-- The scan yields the parts of a cut; `soFar` belongs to the first one. -/
theorem cut_of_scan_eq_ok {parts : List (List Char)}
    (success : scan .unquoted soFar cs = .ok parts) :
    ∃ part others, parts = (soFar.reverse ++ part) :: others ∧
      Cut cs (part :: others) := by
  -- A quotation and the word `and` are passed in one step, so the induction is
  -- on the length.
  induction length : cs.length using Nat.strong_induction_on
    generalizing cs soFar parts with
  | h size induction =>
      cases meets cs with
      | nil =>
          cases success
          exact ⟨[], [], by simp, .last .nil⟩
      | @quotation mark body rest isMark absent =>
          rw [scan_mark isMark, scan_quoted absent] at success
          obtain ⟨part, others, rfl, cut⟩ :=
            induction rest.length (by simp at length; omega) success rfl
          refine ⟨mark :: (body ++ mark :: part), others, by simp, ?_⟩
          simpa using cut.prepend (mark :: (body ++ [mark])) fun runs => by
            simpa using RunsOn.quoted isMark absent runs
      | openQuotation isMark absent =>
          rw [scan_mark isMark, scan_openQuotation absent] at success
          cases success
      | bracket isBracket =>
          rw [scan_bracket isBracket] at success
          cases success
      | @and c gap word rest blank areBlank spells ends =>
          rw [scan_and blank areBlank spells ends] at success
          obtain ⟨others, scanned, rfl⟩ := map_eq_ok success
          obtain ⟨part, more, rfl, cut⟩ :=
            induction rest.length (by simp at length; omega) scanned rfl
          exact ⟨[], _, by simp, .and .nil blank areBlank spells ends cut⟩
      | or blank isAnd isOr =>
          rw [scan_or blank isAnd isOr] at success
          cases success
      | @blank c rest blank isAnd isOr =>
          rw [scan_blank blank isAnd isOr] at success
          obtain ⟨part, others, rfl, cut⟩ :=
            induction rest.length (by simp at length; omega) success rfl
          refine ⟨c :: part, others, by simp,
            cut.prepend [c] (.blank blank ?_)⟩
          intro ahead
          obtain ⟨after, rfl⟩ := cut.exists_append
          rcases (ahead.append after).starts with starts | starts
          · simp [starts] at isAnd
          · simp [starts] at isOr
      | @plain c rest isMark isBracket blank =>
          rw [scan_plain isMark isBracket blank] at success
          obtain ⟨part, others, rfl, cut⟩ :=
            induction rest.length (by simp at length; omega) success rfl
          exact ⟨c :: part, others, by simp,
            cut.prepend [c] (.plain isMark isBracket blank)⟩

end Conjunction

end Polystore
