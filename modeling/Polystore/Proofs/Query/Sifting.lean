import Polystore.Proofs.Query.Cutting
import Polystore.Proofs.Query.Ends

/-!
# Brackets and disjunctions in clauses

Outside of its quotations a clause that is accepted holds no bracket.  The word
`or` is found where blanks set it off: a blank of ASCII in front of it, perhaps
with others behind that blank, and one right behind the word if anything is
there.  A clause with the word so set off is refused.  Where something else
stands next to the word, a quotation mark for example, the clause is accepted.
-/

namespace Polystore

namespace Conjunction

open Text Grammar

/-- The quotation that is open behind a character. -/
def passed (opened : Option Char) (c : Char) : Option Char :=
  match opened with
  | none => if c == '\'' || c == '"' then some c else none
  | some mark => if c == mark then none else some mark

/-- The quotation that is open behind a text. -/
def openMark (opened : Option Char) (text : List Char) : Option Char :=
  text.foldl passed opened

/-- Outside of quotations there is a character that is such, together with what
is behind it. -/
def Somewhere (such : Char → List Char → Prop) :
    Option Char → List Char → Prop
  | _, [] => False
  | opened, c :: cs =>
    (opened = none ∧ such c cs) ∨ Somewhere such (passed opened c) cs

variable {such : Char → List Char → Prop} {mark : Char}
  {front body rest : List Char}

theorem somewhere_iff {opened : Option Char} {text : List Char} :
    Somewhere such opened text ↔
      ∃ before c after, text = before ++ c :: after ∧
        openMark opened before = none ∧ such c after := by
  induction text generalizing opened with
  | nil => simp [Somewhere]
  | cons d text induction =>
      rw [Somewhere, induction]
      constructor
      · rintro (⟨rfl, isSuch⟩ | ⟨before, c, after, rfl, outside, isSuch⟩)
        · exact ⟨[], d, text, rfl, rfl, isSuch⟩
        · exact ⟨d :: before, c, after, rfl, outside, isSuch⟩
      · rintro ⟨before, c, after, isText, outside, isSuch⟩
        cases before with
        | nil =>
            obtain ⟨rfl, rfl⟩ := List.cons.inj isText
            exact .inl ⟨outside, isSuch⟩
        | cons e before =>
            obtain ⟨rfl, rfl⟩ := List.cons.inj isText
            exact .inr ⟨before, c, after, rfl, outside, isSuch⟩

theorem passed_mark (isMark : IsMark mark) :
    passed none mark = some mark := by
  rcases isMark with rfl | rfl
  · rfl
  · rfl

theorem passed_of_not_isMark {c : Char} (noMark : ¬IsMark c) :
    passed none c = none := by
  simp only [IsMark] at noMark
  simp [passed, noMark]

theorem isMark_of_mem_passed {opened : Option Char} {c : Char}
    (areMarks : ∀ mark ∈ opened, IsMark mark) :
    ∀ mark ∈ passed opened c, IsMark mark := by
  intro mark isPassed
  cases opened with
  | none =>
      obtain ⟨isMark, rfl⟩ : IsMark c ∧ c = mark := by
        simpa [passed, IsMark] using isPassed
      exact isMark
  | some opening =>
      obtain ⟨-, rfl⟩ : c ≠ opening ∧ opening = mark := by
        simpa [passed] using isPassed
      exact areMarks opening rfl

theorem isMark_of_mem_openMark {opened : Option Char} {text : List Char}
    (areMarks : ∀ mark ∈ opened, IsMark mark) :
    ∀ mark ∈ openMark opened text, IsMark mark := by
  induction text generalizing opened with
  | nil => exact areMarks
  | cons c text induction => exact induction (isMark_of_mem_passed areMarks)

theorem openMark_plain {opened : Option Char} {text : List Char}
    (areMarks : ∀ mark ∈ opened, IsMark mark)
    (noMark : ∀ c ∈ text, ¬IsMark c) : openMark opened text = opened := by
  induction text with
  | nil => rfl
  | cons c text induction =>
      obtain ⟨notMark, others⟩ := List.forall_mem_cons.mp noMark
      have stays : passed opened c = opened := by
        cases opened with
        | none => exact passed_of_not_isMark notMark
        | some mark =>
            have differs : c ≠ mark := by
              rintro rfl
              exact notMark (areMarks c rfl)
            simp [passed, differs]
      rw [openMark, List.foldl_cons, stays]
      exact induction others

theorem openMark_append (opened : Option Char) (front rest : List Char) :
    openMark opened (front ++ rest) = openMark (openMark opened front) rest :=
  List.foldl_append

theorem openMark_inside (absent : mark ∉ body) :
    openMark (some mark) (body ++ rest) = openMark (some mark) rest := by
  induction body with
  | nil => rfl
  | cons c body induction =>
      rw [List.mem_cons, not_or] at absent
      have stays : passed (some mark) c = some mark := by
        simp [passed, Ne.symm absent.1]
      rw [List.cons_append, openMark, List.foldl_cons, stays]
      exact induction absent.2

theorem openMark_quotation (isMark : IsMark mark) (absent : mark ∉ body) :
    openMark none (mark :: (body ++ mark :: rest)) = openMark none rest := by
  have closes : passed (some mark) mark = none := by simp [passed]
  rw [openMark, List.foldl_cons, passed_mark isMark, ← openMark,
    openMark_inside absent, openMark, List.foldl_cons, closes, ← openMark]

theorem somewhere_append
    (passes : ∀ before c after, front = before ++ c :: after →
      ¬IsMark c ∧ ¬such c (after ++ rest)) :
    Somewhere such none (front ++ rest) ↔ Somewhere such none rest := by
  induction front with
  | nil => rfl
  | cons c front induction =>
      obtain ⟨noMark, notSuch⟩ := passes [] c front rfl
      have others : ∀ before d after, front = before ++ d :: after →
          ¬IsMark d ∧ ¬such d (after ++ rest) := by
        intro before d after isFront
        exact passes (c :: before) d after (by rw [isFront]; rfl)
      rw [List.cons_append, Somewhere, passed_of_not_isMark noMark,
        induction others]
      simp [notSuch]

theorem somewhere_inside (absent : mark ∉ body) :
    Somewhere such (some mark) (body ++ mark :: rest) ↔
      Somewhere such none rest := by
  induction body with
  | nil => simp [Somewhere, passed]
  | cons c body induction =>
      rw [List.mem_cons, not_or] at absent
      have stays : passed (some mark) c = some mark := by
        simp [passed, Ne.symm absent.1]
      rw [List.cons_append, Somewhere, stays, induction absent.2]
      simp

theorem somewhere_quotation (isMark : IsMark mark) (absent : mark ∉ body)
    (notSuch : ∀ after, ¬such mark after) :
    Somewhere such none (mark :: (body ++ mark :: rest)) ↔
      Somewhere such none rest := by
  rw [Somewhere, passed_mark isMark, somewhere_inside absent]
  simp [notSuch]

/-- A bracket, whatever is behind it. -/
def IsGrouping (c : Char) (_ : List Char) : Prop := IsBracket c

/-- A blank behind which a disjunction goes on. -/
def IsDisjunction (c : Char) (after : List Char) : Prop :=
  isAsciiBlank c = true ∧ startsWithKeyword ['o', 'r'] (skipBlanks after) = true

/-- The result of a scan agrees with what there is outside of quotations. -/
def Tells {α : Type} (text : List Char) : Except Unsupported α → Prop
  | .ok _ => openMark none text = none ∧
      ¬Somewhere IsGrouping none text ∧ ¬Somewhere IsDisjunction none text
  | .error .grouping => Somewhere IsGrouping none text
  | .error .disjunction => Somewhere IsDisjunction none text
  | .error .unterminatedText => openMark none text ≠ none
  | .error _ => False

theorem tells_map {α β : Type} (f : α → β) (text : List Char)
    (result : Except Unsupported α) :
    Tells text (result.map f) ↔ Tells text result := by
  cases result with
  | ok value => rfl
  | error reason => cases reason <;> rfl

theorem Tells.congr {α : Type} {text other : List Char}
    {result : Except Unsupported α} (tells : Tells text result)
    (opened : openMark none other = openMark none text)
    (grouping : Somewhere IsGrouping none other ↔
      Somewhere IsGrouping none text)
    (disjunction : Somewhere IsDisjunction none other ↔
      Somewhere IsDisjunction none text) : Tells other result := by
  cases result with
  | ok value =>
      obtain ⟨closed, noGrouping, noDisjunction⟩ := tells
      exact ⟨opened.trans closed, noGrouping ∘ grouping.mp,
        noDisjunction ∘ disjunction.mp⟩
  | error reason =>
      cases reason with
      | grouping => exact grouping.mpr tells
      | disjunction => exact disjunction.mpr tells
      | unterminatedText => exact opened.trans_ne tells
      | notSelectAll => exact tells
      | condition text => exact tells
      | emptyCondition => exact tells
      | limit fault => exact tells
      | repeatedOperator key field => exact tells

/-- A stretch in which the scan finds nothing makes no difference. -/
theorem Tells.append {α : Type} {result : Except Unsupported α}
    (tells : Tells rest result)
    (nothing : ∀ before c after, front = before ++ c :: after →
      ¬IsMark c ∧ ¬IsBracket c ∧ ¬IsDisjunction c (after ++ rest)) :
    Tells (front ++ rest) result := by
  apply tells.congr
  · have noMark : ∀ c ∈ front, ¬IsMark c := by
      intro c member
      obtain ⟨before, after, isFront⟩ := List.append_of_mem member
      exact (nothing before c after isFront).1
    rw [openMark_append, openMark_plain (by simp) noMark]
  · apply somewhere_append
    intro before c after isFront
    obtain ⟨noMark, noBracket, _⟩ := nothing before c after isFront
    exact ⟨noMark, noBracket⟩
  · apply somewhere_append
    intro before c after isFront
    obtain ⟨noMark, _, noDisjunction⟩ := nothing before c after isFront
    exact ⟨noMark, noDisjunction⟩

theorem not_isBracket_of_isMark {c : Char} (isMark : IsMark c) :
    ¬IsBracket c := by
  rintro (rfl | rfl) <;> exact absurd isMark (by simp [IsMark])

theorem not_isDisjunction_of_not_isAsciiBlank {c : Char}
    (noBlank : isAsciiBlank c = false) (after : List Char) :
    ¬IsDisjunction c after := by
  intro isDisjunction
  rw [isDisjunction.1] at noBlank
  cases noBlank

theorem isAsciiBlank_of_isMark {c : Char} (isMark : IsMark c) :
    isAsciiBlank c = false := by
  rcases isMark with rfl | rfl
  · rfl
  · rfl

theorem not_isBracket_of_isBlank {c : Char} (blank : isBlank c = true) :
    ¬IsBracket c := by
  rintro (rfl | rfl) <;> exact absurd blank (by decide)

theorem Tells.cons {α : Type} {result : Except Unsupported α} {c : Char}
    (tells : Tells rest result) (noMark : ¬IsMark c) (noBracket : ¬IsBracket c)
    (noDisjunction : ¬IsDisjunction c rest) : Tells (c :: rest) result := by
  show Tells ([c] ++ rest) result
  apply tells.append
  intro before d after isFront
  cases before with
  | nil =>
      cases isFront
      exact ⟨noMark, noBracket, noDisjunction⟩
  | cons e before => simp at isFront

/-- At the word `and` there is no word `or`. -/
theorem startsWithKeyword_or_of_and {word : List Char}
    (spells : Spells ['a', 'n', 'd'] word) (rest : List Char) :
    startsWithKeyword ['o', 'r'] (word ++ rest) = false := by
  rw [← Bool.not_eq_true, startsWithKeyword_iff isPlainKeyword_or]
  rintro ⟨other, tail, spellsOther, same, -⟩
  cases spells with
  | cons foldsToA _ =>
      cases spellsOther with
      | cons foldsToO _ =>
          obtain ⟨rfl, -⟩ := List.cons.inj same
          simp only [foldsTo, Bool.or_eq_true, Bool.and_eq_true,
            beq_iff_eq] at foldsToA foldsToO
          simp_all

/-- Nothing is found in blanks with the word `and` behind them. -/
theorem nothing_in_and {gap word before after : List Char} {c : Char}
    (areBlank : gap ∈ blanks) (spells : Spells ['a', 'n', 'd'] word)
    (isFront : gap ++ word = before ++ c :: after) :
    ¬IsMark c ∧ ¬IsBracket c ∧ ¬IsDisjunction c (after ++ rest) := by
  have inWord (member : c ∈ word) :
      ¬IsMark c ∧ ¬IsBracket c ∧ ¬IsDisjunction c (after ++ rest) := by
    have noBlank : isBlank c = false :=
      isBlank_of_mem_spells spells isPlainKeyword_and.isBlank_eq_false member
    refine ⟨?_, ?_, not_isDisjunction_of_not_isAsciiBlank
      (isAsciiBlank_of_isBlank noBlank) _⟩
    · rintro (rfl | rfl)
      · exact not_mem_of_spells spells (by decide) member
      · exact not_mem_of_spells spells (by decide) member
    · rintro (rfl | rfl)
      · exact not_mem_of_spells spells (by decide) member
      · exact not_mem_of_spells spells (by decide) member
  rcases List.append_eq_append_iff.mp isFront with
    ⟨middle, _, isWord⟩ | ⟨middle, isGap, isRest⟩
  · exact inWord (by simp [isWord])
  · cases middle with
    | nil =>
        rw [List.nil_append] at isRest
        exact inWord (by simp [← isRest])
    | cons d middle =>
        rw [List.cons_append] at isRest
        obtain ⟨rfl, rfl⟩ := List.cons.inj isRest
        have inGap : c ∈ gap := by simp [isGap]
        have blank : isBlank c = true := areBlank c inGap
        refine ⟨not_isMark_of_isBlank blank, not_isBracket_of_isBlank blank, ?_⟩
        rintro ⟨-, isOr⟩
        have areBlankToo : middle ∈ blanks := by
          intro e member
          have memberToo : e ∈ gap := by simp [isGap, member]
          exact areBlank e memberToo
        rw [List.append_assoc, skipBlanks_keyword (by decide) areBlankToo
          spells, startsWithKeyword_or_of_and spells] at isOr
        cases isOr

/-- The scan of an unquoted text tells what there is outside of quotations. -/
theorem tells_scan (soFar cs : List Char) :
    Tells cs (scan .unquoted soFar cs) := by
  induction length : cs.length using Nat.strong_induction_on
    generalizing cs soFar with
  | h size induction =>
      cases meets cs with
      | nil => exact ⟨rfl, id, id⟩
      | @quotation mark body rest isMark absent =>
          rw [scan_mark isMark, scan_quoted absent]
          apply Tells.congr (induction rest.length (by simp at length; omega)
            _ rest rfl)
          · exact openMark_quotation isMark absent
          · apply somewhere_quotation isMark absent
            exact fun _ => not_isBracket_of_isMark isMark
          · apply somewhere_quotation isMark absent
            exact not_isDisjunction_of_not_isAsciiBlank
              (isAsciiBlank_of_isMark isMark)
      | @openQuotation mark rest isMark absent =>
          rw [scan_mark isMark, scan_openQuotation absent]
          have opened : openMark (some mark) (rest ++ []) = some mark :=
            openMark_inside absent
          rw [List.append_nil] at opened
          show openMark none (mark :: rest) ≠ none
          rw [openMark, List.foldl_cons, passed_mark isMark, ← openMark,
            opened]
          exact Option.some_ne_none mark
      | bracket isBracket =>
          rw [scan_bracket isBracket]
          exact .inl ⟨rfl, isBracket⟩
      | @and c gap word rest blank areBlank spells ends =>
          rw [scan_and blank areBlank spells ends, tells_map]
          have isText : c :: (gap ++ (word ++ rest)) =
              ((c :: gap) ++ word) ++ rest := by simp
          have areBlankToo : c :: gap ∈ blanks :=
            List.forall_mem_cons.mpr ⟨isBlank_of_isAsciiBlank blank, areBlank⟩
          rw [isText]
          apply Tells.append
          · exact induction rest.length (by simp at length; omega) _ rest rfl
          · intro before d after isFront
            exact nothing_in_and areBlankToo spells isFront
      | or blank isAnd isOr =>
          rw [scan_or blank isAnd isOr]
          exact .inl ⟨rfl, blank, isOr⟩
      | @blank c rest blank isAnd isOr =>
          rw [scan_blank blank isAnd isOr]
          apply Tells.cons
          · exact induction rest.length (by simp at length; omega) _ rest rfl
          · exact not_isMark_of_isBlank (isBlank_of_isAsciiBlank blank)
          · exact not_isBracket_of_isBlank (isBlank_of_isAsciiBlank blank)
          · rintro ⟨-, isOrToo⟩
            rw [isOr] at isOrToo
            cases isOrToo
      | @plain c rest noMark noBracket noBlank =>
          rw [scan_plain noMark noBracket noBlank]
          apply Tells.cons
          · exact induction rest.length (by simp at length; omega) _ rest rfl
          · exact noMark
          · exact noBracket
          · exact not_isDisjunction_of_not_isAsciiBlank noBlank rest

/-- An accepted clause has a condition in every part, which the scan does not
look at. -/
theorem tells_split (clause : List Char) :
    Tells clause (split clause) ∨
      split clause = .error .emptyCondition := by
  have told := tells_scan [] clause
  unfold split
  cases scanned : scan .unquoted [] clause with
  | error reason =>
      rw [scanned] at told
      left
      cases reason <;> exact told
  | ok parts =>
      rw [scanned] at told
      simp only [bind, Except.bind, pure, Except.pure]
      split
      · exact .inr rfl
      · exact .inl told

/-- Outside of quotations the word `or` stands between these texts, and no
word character touches it. -/
structure Bare (before word after : List Char) : Prop where
  outside : openMark none before = none
  spells : Spells ['o', 'r'] word
  freeBefore : ∀ c ∈ before.getLast?, isWord c = false
  freeAfter : ∀ c ∈ after.head?, isWord c = false

/-- In front of a word there is a blank of ASCII with only blanks behind it,
and a blank of ASCII or nothing is behind the word. -/
structure SetOff (before after : List Char) : Prop where
  front : ∃ lead blank gap, before = lead ++ blank :: gap ∧
    isAsciiBlank blank = true ∧ gap ∈ blanks
  behind : ∀ c ∈ after.head?, isAsciiBlank c = true

theorem openMark_gap {lead gap : List Char} {blank : Char}
    (isBlank : isAsciiBlank blank = true) (areBlank : gap ∈ blanks) :
    openMark none (lead ++ blank :: gap) = openMark none lead := by
  rw [openMark_append]
  apply openMark_plain
  · exact isMark_of_mem_openMark (by simp)
  · rw [List.forall_mem_cons]
    constructor
    · exact not_isMark_of_isBlank (isBlank_of_isAsciiBlank isBlank)
    · exact fun c member => not_isMark_of_isBlank (areBlank c member)

theorem isWord_of_mem_gap {lead gap : List Char} {blank : Char}
    (isBlank : isAsciiBlank blank = true) (areBlank : gap ∈ blanks) :
    ∀ c ∈ (lead ++ blank :: gap).getLast?, isWord c = false := by
  intro c isLast
  have member : c ∈ blank :: gap := by
    rw [List.getLast?_append_of_ne_nil _ (by simp)] at isLast
    exact List.mem_of_getLast? isLast
  rcases List.mem_cons.mp member with rfl | inGap
  · exact isWord_of_isBlank (isBlank_of_isAsciiBlank isBlank)
  · exact isWord_of_isBlank (areBlank c inGap)

theorem somewhere_isDisjunction_iff {clause : List Char} :
    Somewhere IsDisjunction none clause ↔
      ∃ before word after, clause = before ++ (word ++ after) ∧
        Bare before word after ∧ SetOff before after := by
  rw [somewhere_iff]
  constructor
  · rintro ⟨lead, blank, rest, rfl, outside, isBlank, starts⟩
    obtain ⟨word, after, spells, isRest, ends⟩ :=
      (startsWithKeyword_iff isPlainKeyword_or).mp starts
    obtain ⟨gap, areBlank, isGap⟩ := exists_blanks_append_skipBlanks rest
    refine ⟨lead ++ blank :: gap, word, after, ?_, ?_, ?_⟩
    · rw [isGap, isRest, List.append_assoc, List.cons_append]
    · exact {
        outside := (openMark_gap isBlank areBlank).trans outside
        spells := spells
        freeBefore := isWord_of_mem_gap isBlank areBlank
        freeAfter := fun c isHead =>
          isWord_of_isBlank (isBlank_of_isAsciiBlank (ends c isHead)) }
    · exact ⟨⟨lead, blank, gap, rfl, isBlank, areBlank⟩, ends⟩
  · rintro ⟨before, word, after, rfl, bare, setOff⟩
    obtain ⟨lead, blank, gap, rfl, isBlank, areBlank⟩ := setOff.front
    refine ⟨lead, blank, gap ++ (word ++ after), by simp, ?_, isBlank, ?_⟩
    · rw [← openMark_gap isBlank areBlank]
      exact bare.outside
    · rw [skipBlanks_keyword (by decide) areBlank bare.spells]
      exact (startsWithKeyword_iff isPlainKeyword_or).mpr
        ⟨word, after, bare.spells, rfl, setOff.behind⟩

/-- What a clause that is accepted holds outside of its quotations: no bracket,
and the word `or` only where it is not set off.  A clause is refused for a
bracket or for a disjunction only if it holds one. -/
theorem split_sifts (clause : List Char) :
    (∀ parts, split clause = .ok parts →
      openMark none clause = none ∧
      (∀ before c after, clause = before ++ c :: after →
        openMark none before = none → ¬IsBracket c) ∧
      ∀ before word after, clause = before ++ (word ++ after) →
        Bare before word after → ¬SetOff before after) ∧
    (split clause = .error .grouping →
      ∃ before c after, clause = before ++ c :: after ∧
        openMark none before = none ∧ IsBracket c) ∧
    (split clause = .error .disjunction →
      ∃ before word after, clause = before ++ (word ++ after) ∧
        Bare before word after ∧ SetOff before after) := by
  have told := tells_split clause
  refine ⟨?_, ?_, ?_⟩
  · intro parts accepted
    rw [accepted] at told
    rcases told with ⟨closed, noGrouping, noDisjunction⟩ | empty
    · refine ⟨closed, ?_, ?_⟩
      · intro before c after isClause outside isBracket
        apply noGrouping
        exact somewhere_iff.mpr
          ⟨before, c, after, isClause, outside, isBracket⟩
      · intro before word after isClause bare setOff
        apply noDisjunction
        exact somewhere_isDisjunction_iff.mpr
          ⟨before, word, after, isClause, bare, setOff⟩
    · cases empty
  · intro refused
    rw [refused] at told
    rcases told with grouping | empty
    · exact somewhere_iff.mp grouping
    · cases empty
  · intro refused
    rw [refused] at told
    rcases told with disjunction | empty
    · exact somewhere_isDisjunction_iff.mp disjunction
    · cases empty

/-- A clause with a bracket and the word `or` within quotations is accepted,
and one with the word between spaces is not. -/
theorem split_sifts_quoted :
    split "a = '(x) or' AND b = 1".toList =
        .ok ["a = '(x) or'".toList, "b = 1".toList] ∧
      openMark none "a = '(x) or' AND b = 1".toList = none ∧
      split "a = 1 Or b = 2".toList = .error .disjunction ∧
      ∃ before word after,
        "a = 1 Or b = 2".toList = before ++ (word ++ after) ∧
          Bare before word after ∧ SetOff before after := by
  have accepted : split "a = '(x) or' AND b = 1".toList =
      .ok ["a = '(x) or'".toList, "b = 1".toList] := by
    decide +kernel
  have refused : split "a = 1 Or b = 2".toList = .error .disjunction := by
    decide +kernel
  refine ⟨accepted, ?_, refused, ?_⟩
  · exact ((split_sifts _).1 _ accepted).1
  · exact (split_sifts _).2.2 refused

/-- Next to a quotation the word `or` is on its own, but the clause is
accepted as one condition. -/
theorem split_takes_disjunction :
    split "a = 'x'OR b = 2".toList = .ok ["a = 'x'OR b = 2".toList] ∧
      "a = 'x'OR b = 2".toList =
        "a = 'x'".toList ++ ("OR".toList ++ " b = 2".toList) ∧
      Bare "a = 'x'".toList "OR".toList " b = 2".toList := by
  refine ⟨by decide +kernel, rfl, ?_⟩
  constructor
  · rfl
  · exact .cons (by decide) (.cons (by decide) .nil)
  · intro c isLast
    cases isLast
    rfl
  · intro c isFirst
    cases isFirst
    rfl

end Conjunction

end Polystore
