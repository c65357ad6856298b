import Mathlib.Data.List.Forall2
import Polystore.Text.Blank
import Polystore.Text.DecimalDigit
import Polystore.Text.Keyword

/-!
# Scanning

What the steps that read the head of a text make of a text that was put
together, and which characters a text can hold when a step has read it.
-/

namespace Polystore.Text

def blankCodes : List Nat :=
  [0x09, 0x0a, 0x0b, 0x0c, 0x0d, 0x20, 0x85, 0xa0, 0x1680, 0x2000, 0x2001,
    0x2002, 0x2003, 0x2004, 0x2005, 0x2006, 0x2007, 0x2008, 0x2009, 0x200a,
    0x2028, 0x2029, 0x202f, 0x205f, 0x3000]

theorem mem_blankCodes {c : Char} (blank : isBlank c = true) :
    c.toNat ∈ blankCodes := by
  simp only [isBlank, Bool.or_eq_true, Bool.and_eq_true, decide_eq_true_eq,
    beq_iff_eq] at blank
  simp only [blankCodes, List.mem_cons, List.not_mem_nil, or_false]
  omega

theorem isWord_of_isBlank {c : Char} (blank : isBlank c = true) :
    isWord c = false := by
  have outside : ∀ code ∈ blankCodes, isWord (Char.ofNat code) = false := by
    decide +kernel
  simpa using outside c.toNat (mem_blankCodes blank)

theorem isBlank_of_isWord {c : Char} (word : isWord c = true) :
    isBlank c = false := by
  by_contra blank
  rw [Bool.not_eq_false] at blank
  rw [isWord_of_isBlank blank] at word
  cases word

theorem isBlank_of_isAsciiBlank {c : Char} (blank : isAsciiBlank c = true) :
    isBlank c = true := by
  simp only [isAsciiBlank, Bool.or_eq_true, beq_iff_eq] at blank
  rcases blank with (((rfl | rfl) | rfl) | rfl) | rfl <;> decide

theorem isAsciiBlank_of_isBlank {c : Char} (noBlank : isBlank c = false) :
    isAsciiBlank c = false := by
  by_contra blank
  rw [Bool.not_eq_false] at blank
  rw [isBlank_of_isAsciiBlank blank] at noBlank
  cases noBlank

theorem toLower_of_isBlank {c : Char} (blank : isBlank c = true) :
    c.toLower = c := by
  simp only [isBlank, Bool.or_eq_true, Bool.and_eq_true, decide_eq_true_eq,
    beq_iff_eq, Char.toNat] at blank
  unfold Char.toLower
  split
  · rename_i upper
    have lower := UInt32.le_iff_toNat_le.mp upper.1
    have higher := UInt32.le_iff_toNat_le.mp upper.2
    have first : 'A'.val.toNat = 65 := rfl
    have last : 'Z'.val.toNat = 90 := rfl
    omega
  · rfl

theorem isBlank_of_foldsTo {letter c : Char} (folds : foldsTo letter c = true)
    (noBlank : isBlank letter = false) : isBlank c = false := by
  by_contra blank
  rw [Bool.not_eq_false] at blank
  simp only [foldsTo, toLower_of_isBlank blank, Bool.or_eq_true,
    Bool.and_eq_true, beq_iff_eq] at folds
  rcases folds with (same | ⟨_, rfl⟩) | ⟨_, rfl⟩
  · rw [same, noBlank] at blank
    cases blank
  · exact absurd blank (by decide)
  · exact absurd blank (by decide)

theorem takeWhile_dropWhile_append {p : Char → Bool} {run rest : List Char}
    (inRun : ∀ c ∈ run, p c = true)
    (stops : ∀ c cs, rest = c :: cs → p c = false) :
    (run ++ rest).takeWhile p = run ∧ (run ++ rest).dropWhile p = rest := by
  induction run with
  | nil =>
      cases rest with
      | nil => simp
      | cons c cs =>
          have noRun := stops c cs rfl
          simp [noRun]
  | cons c cs induction =>
      have isRun := inRun c List.mem_cons_self
      obtain ⟨taken, dropped⟩ := induction
        fun d member => inRun d (List.mem_cons_of_mem _ member)
      simp [isRun, taken, dropped]

theorem eq_of_append_eq_append {left right leftRest rightRest : List Char}
    (leftPlain : ∀ c ∈ left, isBlank c = false)
    (rightPlain : ∀ c ∈ right, isBlank c = false)
    (leftEnds : ∀ c ∈ leftRest.head?, isBlank c = true)
    (rightEnds : ∀ c ∈ rightRest.head?, isBlank c = true)
    (same : left ++ leftRest = right ++ rightRest) : left = right := by
  have run : ∀ {text rest : List Char}, (∀ c ∈ text, isBlank c = false) →
      (∀ c ∈ rest.head?, isBlank c = true) →
      (text ++ rest).takeWhile (fun c => !isBlank c) = text := by
    intro text rest plain ends
    refine (takeWhile_dropWhile_append ?_ ?_).1
    · intro c member
      rw [plain c member, Bool.not_false]
    · rintro c cs rfl
      rw [ends c rfl, Bool.not_true]
  rw [← run leftPlain leftEnds, same, run rightPlain rightEnds]

theorem skipBlanks_cons {c : Char} (noBlank : isBlank c = false)
    (cs : List Char) : skipBlanks (c :: cs) = c :: cs := by
  simp [skipBlanks, noBlank]

theorem name?_append {name rest : List Char} (nonempty : name ≠ [])
    (areWord : ∀ c ∈ name, isWord c = true)
    (stops : ∀ c cs, rest = c :: cs → isWord c = false) :
    name? (name ++ rest) = some (name, rest) := by
  obtain ⟨taken, dropped⟩ := takeWhile_dropWhile_append areWord stops
  rw [name?, taken, dropped]
  cases name with
  | nil => exact absurd rfl nonempty
  | cons c cs => rfl

theorem isDecimalDigit_of_isDigit {c : Char} (isDigit : c.isDigit = true) :
    isDecimalDigit c = true := by
  have range := Char.isDigit_iff_toNat.mp isDigit
  have nine : '9'.toNat = 57 := rfl
  have ascii : c.toNat < 0x80 := by omega
  rw [isDecimalDigit, if_pos ascii, isDigit]

theorem isBlank_of_isDigit {c : Char} (isDigit : c.isDigit = true) :
    isBlank c = false := by
  have range := Char.isDigit_iff_toNat.mp isDigit
  have zero : '0'.toNat = 48 := rfl
  have nine : '9'.toNat = 57 := rfl
  rw [← Bool.not_eq_true]
  simp only [isBlank, Bool.or_eq_true, Bool.and_eq_true, decide_eq_true_eq,
    beq_iff_eq]
  omega

theorem skipBlanks_append {gap rest : List Char}
    (areBlank : ∀ c ∈ gap, isBlank c = true)
    (stops : ∀ c cs, rest = c :: cs → isBlank c = false) :
    skipBlanks (gap ++ rest) = rest :=
  (takeWhile_dropWhile_append areBlank stops).2

theorem trim_append {before text after : List Char}
    (blankBefore : ∀ c ∈ before, isBlank c = true)
    (blankAfter : ∀ c ∈ after, isBlank c = true) (nonempty : text ≠ [])
    (starts : ∀ c cs, text = c :: cs → isBlank c = false)
    (ends : ∀ c cs, text.reverse = c :: cs → isBlank c = false) :
    trim (before ++ (text ++ after)) = text := by
  have skipped : skipBlanks (before ++ (text ++ after)) = text ++ after := by
    apply skipBlanks_append blankBefore
    intro c cs isText
    cases text with
    | nil => exact absurd rfl nonempty
    | cons d ds =>
        cases isText
        exact starts c ds rfl
  have blankReversed : ∀ c ∈ after.reverse, isBlank c = true := fun c member =>
    blankAfter c (List.mem_reverse.mp member)
  rw [trim, skipped, dropTrailingBlanks, List.reverse_append,
    skipBlanks_append blankReversed ends, List.reverse_reverse]

/-- The text spells the keyword, given in small letters, in any case. -/
def Spells (keyword text : List Char) : Prop :=
  List.Forall₂ (fun letter c => foldsTo letter c = true) keyword text

theorem afterKeyword?_eq_some_iff {keyword cs rest : List Char} :
    afterKeyword? keyword cs = some rest ↔
      ∃ word, Spells keyword word ∧ cs = word ++ rest := by
  constructor
  · intro read
    induction keyword generalizing cs with
    | nil =>
        cases read
        exact ⟨[], .nil, rfl⟩
    | cons letter keyword induction =>
        cases cs with
        | nil => cases read
        | cons c cs =>
            rw [afterKeyword?] at read
            split at read
            · rename_i folds
              obtain ⟨word, spells, same⟩ := induction read
              exact ⟨c :: word, .cons folds spells, by rw [same]; rfl⟩
            · cases read
  · rintro ⟨word, spells, rfl⟩
    induction spells with
    | nil => rfl
    | cons folds _ induction =>
        rw [List.cons_append, afterKeyword?, if_pos folds]
        exact induction

theorem after?_eq_some {start cs rest : List Char}
    (read : after? start cs = some rest) : cs = start ++ rest := by
  induction start generalizing cs with
  | nil =>
      cases read
      rfl
  | cons expected start induction =>
      cases cs with
      | nil => cases read
      | cons c cs =>
          rw [after?] at read
          split at read
          · rename_i same
            rw [induction read, beq_iff_eq.mp same, List.cons_append]
          · cases read

theorem exists_blanks_append_skipBlanks (cs : List Char) :
    ∃ gap, (∀ c ∈ gap, isBlank c = true) ∧ cs = gap ++ skipBlanks cs :=
  ⟨cs.takeWhile isBlank, List.all_eq_true.mp List.all_takeWhile,
    List.takeWhile_append_dropWhile.symm⟩

theorem isBlank_head_skipBlanks {cs rest : List Char} {c : Char}
    (left : skipBlanks cs = c :: rest) : isBlank c = false := by
  have kept := List.head?_dropWhile_not isBlank cs
  rw [show cs.dropWhile isBlank = c :: rest from left] at kept
  simpa using kept

theorem afterBlanks?_eq_some {cs rest : List Char}
    (read : afterBlanks? cs = some rest) :
    rest = skipBlanks cs ∧
      ∃ gap, gap ≠ [] ∧ (∀ c ∈ gap, isBlank c = true) ∧ cs = gap ++ rest := by
  cases cs with
  | nil => cases read
  | cons c cs =>
      rw [afterBlanks?] at read
      split at read
      · rename_i blank
        cases read
        obtain ⟨gap, areBlank, same⟩ := exists_blanks_append_skipBlanks cs
        refine ⟨by simp [skipBlanks, blank], c :: gap, by simp, ?_, ?_⟩
        · exact List.forall_mem_cons.mpr ⟨blank, areBlank⟩
        · rw [List.cons_append, ← same]
      · cases read

theorem exists_dropTrailingBlanks_append (text : List Char) :
    ∃ gap, (∀ c ∈ gap, isBlank c = true) ∧
      text = dropTrailingBlanks text ++ gap ∧
      ∀ c ∈ (dropTrailingBlanks text).getLast?, isBlank c = false := by
  obtain ⟨gap, areBlank, isGap⟩ :=
    exists_blanks_append_skipBlanks text.reverse
  refine ⟨gap.reverse, ?_, ?_, ?_⟩
  · exact fun c member => areBlank c (List.mem_reverse.mp member)
  · rw [dropTrailingBlanks, ← List.reverse_append, ← isGap,
      List.reverse_reverse]
  · intro c isLast
    rw [dropTrailingBlanks, List.getLast?_reverse] at isLast
    obtain ⟨rest, isRest⟩ := List.head?_eq_some_iff.mp isLast
    exact isBlank_head_skipBlanks isRest

/-- What is trimmed from a text is blank, and the rest does not end in a
blank. -/
theorem exists_trim (cs : List Char) :
    ∃ before after, (∀ c ∈ before, isBlank c = true) ∧
      (∀ c ∈ after, isBlank c = true) ∧ cs = before ++ (trim cs ++ after) ∧
      ∀ c rest, (trim cs).reverse = c :: rest → isBlank c = false := by
  obtain ⟨before, blankBefore, isBefore⟩ := exists_blanks_append_skipBlanks cs
  obtain ⟨after, blankAfter, isAfter, ends⟩ :=
    exists_dropTrailingBlanks_append (skipBlanks cs)
  refine ⟨before, after, blankBefore, blankAfter, ?_, ?_⟩
  · rw [trim, ← isAfter, ← isBefore]
  · intro c rest isLast
    apply ends c
    rw [← trim, ← List.head?_reverse, isLast]
    rfl

theorem isBlank_head_trim {cs rest : List Char} {c : Char}
    (isTrim : trim cs = c :: rest) : isBlank c = false := by
  obtain ⟨after, _, isAfter, _⟩ :=
    exists_dropTrailingBlanks_append (skipBlanks cs)
  rw [← trim, isTrim] at isAfter
  exact isBlank_head_skipBlanks isAfter

theorem trim_trim (cs : List Char) : trim (trim cs) = trim cs := by
  by_cases nonempty : trim cs = []
  · rw [nonempty]
    rfl
  · obtain ⟨_, _, _, _, _, ends⟩ := exists_trim cs
    have again := trim_append (List.forall_mem_nil (isBlank · = true))
      (List.forall_mem_nil _) nonempty (fun _ _ => isBlank_head_trim) ends
    simpa using again

theorem name?_eq_some {cs name rest : List Char}
    (read : name? cs = some (name, rest)) :
    name ≠ [] ∧ ∀ c ∈ name, isWord c = true := by
  unfold name? at read
  split at read
  · cases read
  · rename_i isName
    cases read
    constructor
    · intro none
      exact isName none
    · intro c member
      exact List.all_eq_true.mp List.all_takeWhile c member

theorem append_of_name?_eq_some {cs name rest : List Char}
    (read : name? cs = some (name, rest)) : cs = name ++ rest := by
  unfold name? at read
  split at read
  · cases read
  · cases read
    exact List.takeWhile_append_dropWhile.symm

theorem not_mem_of_not_mem_dropWhile {p : Char → Bool} {c : Char}
    {cs : List Char} (outside : p c = false) (absent : c ∉ cs.dropWhile p) :
    c ∉ cs := by
  intro member
  rw [← List.takeWhile_append_dropWhile (p := p) (l := cs)] at member
  rcases List.mem_append.mp member with taken | dropped
  · have inRun := List.all_eq_true.mp List.all_takeWhile c taken
    rw [outside] at inRun
    cases inRun
  · exact absent dropped

theorem not_mem_of_after?_eq_some {start cs rest : List Char} {c : Char}
    (read : after? start cs = some rest) (notInStart : c ∉ start)
    (absent : c ∉ rest) : c ∉ cs := by
  induction start generalizing cs with
  | nil =>
      cases read
      exact absent
  | cons expected start induction =>
      cases cs with
      | nil => simp
      | cons d ds =>
          rw [after?] at read
          split at read
          · rename_i same
            have isExpected : d = expected := by simpa using same
            rw [List.mem_cons, not_or] at notInStart
            rw [List.mem_cons, not_or, isExpected]
            exact ⟨notInStart.1, induction read notInStart.2⟩
          · cases read

end Polystore.Text
