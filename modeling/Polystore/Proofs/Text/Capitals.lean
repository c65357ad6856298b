import Mathlib.Data.Nat.Bitwise
import Polystore.Proofs.Text.Lowercase
import Polystore.Proofs.Text.Scanning

/-!
# Capitals

Lower case changes the capitals of a text and nothing else, and what it puts
in their place is no capital and no blank.  So a text in lower case is its own
lower-case form, as a whole and in every part, and its blanks are where they
were before.
-/

namespace Polystore.Text

/-- The set of these code points, as the number that has these bits. -/
def bitsOf (codes : List Nat) : Nat :=
  codes.foldr (fun code bits => 1 <<< code ||| bits) 0

/-- So many code points from zero on, `stride` apart. -/
def spaced (stride : Nat) : Nat → Nat
  | 0 => 0
  | count + 1 => spaced stride count <<< stride ||| 1

variable {codes others code place : Nat} {c : Char}

theorem testBit_bitsOf (codes : List Nat) (code : Nat) :
    (bitsOf codes).testBit code = true ↔ code ∈ codes := by
  induction codes with
  | nil => simp [bitsOf]
  | cons first codes induction =>
      rw [bitsOf, List.foldr_cons, ← bitsOf, Nat.testBit_or, Bool.or_eq_true,
        induction, Nat.one_shiftLeft, Nat.testBit_two_pow, decide_eq_true_eq,
        List.mem_cons, eq_comm]

theorem testBit_spaced (stride count code : Nat) :
    (spaced stride count).testBit code = true ↔
      ∃ place < count, code = stride * place := by
  induction count generalizing code with
  | zero => simp [spaced]
  | succ count induction =>
      rw [spaced, ← Nat.pow_zero 2, Nat.testBit_or, Bool.or_eq_true,
        Nat.testBit_shiftLeft, Bool.and_eq_true, decide_eq_true_eq, induction,
        Nat.testBit_two_pow, decide_eq_true_eq]
      constructor
      · rintro (⟨atLeast, place, within, isPlace⟩ | rfl)
        · exact ⟨place + 1, by omega, by rw [Nat.mul_succ]; omega⟩
        · exact ⟨0, by omega, rfl⟩
      · rintro ⟨place, within, rfl⟩
        cases place with
        | zero => exact .inr rfl
        | succ place =>
            rw [Nat.mul_succ, Nat.add_sub_cancel]
            exact .inl ⟨Nat.le_add_left _ _, place, by omega, rfl⟩

theorem testBit_of_apart (apart : codes &&& others = 0)
    (member : codes.testBit code = true) : others.testBit code = false := by
  have common : (codes &&& others).testBit code = false := by
    rw [apart, Nat.zero_testBit]
  rwa [Nat.testBit_and, member, Bool.true_and] at common

/-- As many code points as the run has, beginning with this one. -/
def CaseRun.bits (run : CaseRun) (first : Nat) : Nat :=
  spaced run.stride ((run.last - run.first) / run.stride + 1) <<< first

def asciiRun : CaseRun := ⟨0x41, 0x5a, 1, 32⟩

/-- What all runs have, those of ASCII and those beyond. -/
def united (codes : CaseRun → Nat) : Nat :=
  (asciiRun :: caseRuns).foldr (fun run bits => codes run ||| bits) 0

/-- The code points that lower case changes, with those of the dotted I and of
the sigma. -/
def capitalCodes : Nat :=
  bitsOf [0x130, 0x3a3] ||| united fun run => run.bits run.first

/-- The code points that lower case puts in their place, with those of what
the dotted I and the sigma become.  Zero is read where there is no such
character. -/
def smallCodes : Nat :=
  bitsOf [0, 0x69, 0x307, 0x3c2, 0x3c3] |||
    united fun run => run.bits (run.first + run.offset).toNat

/-- A character that lower case changes. -/
def IsCapital (c : Char) : Prop := capitalCodes.testBit c.toNat = true

/-- A character that lower case puts in the place of a capital. -/
def IsSmall (c : Char) : Prop := smallCodes.testBit c.toNat = true

-- The tables are compared as numbers: a comparison member by member has
-- millions of steps.
theorem tables_apart :
    (smallCodes &&& capitalCodes = 0 ∧ smallCodes &&& bitsOf blankCodes = 0) ∧
      capitalCodes &&& bitsOf blankCodes = 0 := by
  decide +kernel

theorem orderly_caseRuns : ∀ run ∈ caseRuns,
    0x80 ≤ run.first ∧ run.first ≤ run.last ∧
      0 ≤ (run.first : Int) + run.offset := by
  decide +kernel

theorem IsSmall.not_isCapital (small : IsSmall c) : ¬IsCapital c := by
  rw [IsCapital, testBit_of_apart tables_apart.1.1 small]
  exact Bool.false_ne_true

theorem isBlank_of_testBit (apart : codes &&& bitsOf blankCodes = 0)
    (member : codes.testBit c.toNat = true) : isBlank c = false := by
  rw [← Bool.not_eq_true]
  intro blank
  have listed := (testBit_bitsOf _ _).mpr (mem_blankCodes blank)
  rw [testBit_of_apart apart member] at listed
  cases listed

theorem IsSmall.isBlank_eq_false (small : IsSmall c) : isBlank c = false :=
  isBlank_of_testBit tables_apart.1.2 small

theorem IsCapital.isBlank_eq_false (capital : IsCapital c) :
    isBlank c = false :=
  isBlank_of_testBit tables_apart.2 capital

theorem testBit_foldr {run : CaseRun → Nat} (runs : List CaseRun) :
    (runs.foldr (fun first bits => run first ||| bits) 0).testBit code =
        true ↔
      ∃ first ∈ runs, (run first).testBit code = true := by
  induction runs with
  | nil => simp
  | cons first runs induction =>
      rw [List.foldr_cons, Nat.testBit_or, Bool.or_eq_true, induction]
      simp

namespace CaseRun

variable {run : CaseRun}

theorem testBit_bits (first : Nat) :
    (run.bits first).testBit code = true ↔
      ∃ place ≤ (run.last - run.first) / run.stride,
        code = first + run.stride * place := by
  rw [bits, Nat.testBit_shiftLeft, Bool.and_eq_true, decide_eq_true_eq,
    testBit_spaced]
  constructor
  · rintro ⟨atLeast, place, within, isPlace⟩
    exact ⟨place, Nat.le_of_lt_succ within, by omega⟩
  · rintro ⟨place, within, rfl⟩
    exact ⟨Nat.le_add_right _ _, place, Nat.lt_succ_of_le within,
      Nat.add_sub_cancel_left _ _⟩

theorem covers_iff (ordered : run.first ≤ run.last) :
    run.covers code = true ↔
      ∃ place ≤ (run.last - run.first) / run.stride,
        code = run.first + run.stride * place := by
  simp only [covers, Bool.and_eq_true, decide_eq_true_eq, beq_iff_eq]
  constructor
  · rintro ⟨⟨atLeast, atMost⟩, onStride⟩
    refine ⟨(code - run.first) / run.stride,
      Nat.div_le_div_right (by omega), ?_⟩
    rw [Nat.mul_div_cancel' (Nat.dvd_of_mod_eq_zero onStride)]
    omega
  · rintro ⟨place, inRun, rfl⟩
    have within := Nat.mul_le_of_le_div _ _ _ inRun
    rw [Nat.mul_comm] at within
    refine ⟨⟨Nat.le_add_right _ _, by omega⟩, ?_⟩
    rw [Nat.add_sub_cancel_left]
    exact Nat.mul_mod_right _ _

end CaseRun

/-- A capital belongs to a run if it is none of the two that have a form of
their own. -/
theorem isCapital_iff : IsCapital c ↔
    c.toNat ∈ [0x130, 0x3a3] ∨
      ∃ run ∈ asciiRun :: caseRuns, run.covers c.toNat = true := by
  have ordered : ∀ run ∈ asciiRun :: caseRuns, run.first ≤ run.last :=
    List.forall_mem_cons.mpr ⟨by decide, fun run member =>
      (orderly_caseRuns run member).2.1⟩
  rw [IsCapital, capitalCodes, Nat.testBit_or, Bool.or_eq_true,
    testBit_bitsOf, united, testBit_foldr]
  apply or_congr_right
  apply exists_congr
  intro run
  apply and_congr_right
  intro member
  rw [CaseRun.testBit_bits, CaseRun.covers_iff (ordered run member)]

theorem special_of_mem (member : c.toNat ∈ [0x130, 0x3a3]) :
    c = 'İ' ∨ c = 'Σ' := by
  rw [← Char.ofNat_toNat c]
  rcases List.mem_cons.mp member with same | member
  · exact .inl (congrArg Char.ofNat same)
  · exact .inr (congrArg Char.ofNat (List.mem_singleton.mp member))

theorem isSmall_ofNat {run : CaseRun} (member : run ∈ asciiRun :: caseRuns)
    (ordered : run.first ≤ run.last)
    (positive : 0 ≤ (run.first : Int) + run.offset)
    (covered : run.covers code = true) :
    IsSmall (Char.ofNat (code + run.offset).toNat) := by
  obtain ⟨place, inRun, rfl⟩ := (CaseRun.covers_iff ordered).mp covered
  rw [IsSmall, smallCodes, Nat.testBit_or, Bool.or_eq_true]
  by_cases valid : Nat.isValidChar
      ((run.first + run.stride * place : Nat) + run.offset).toNat
  · right
    rw [united, testBit_foldr, Char.ofNat, dif_pos valid]
    refine ⟨run, member, (CaseRun.testBit_bits _).mpr ⟨place, inRun, ?_⟩⟩
    show Int.toNat _ = _
    omega
  · left
    rw [Char.ofNat, dif_neg valid, testBit_bitsOf]
    exact List.mem_cons_self

theorem smallLetter_of_mem_asciiCapitals (capital : c ∈ asciiCapitals) :
    IsCapital c ∧ IsSmall (smallLetter c) := by
  have listed : asciiCapitals.all (fun c => asciiRun.covers c.toNat &&
      smallLetter c == Char.ofNat (c.toNat + asciiRun.offset).toNat) =
      true := by
    decide
  obtain ⟨covered, same⟩ := Bool.and_eq_true_iff.mp
    (List.all_eq_true.mp listed c capital)
  refine ⟨isCapital_iff.mpr (.inr ⟨asciiRun, List.mem_cons_self, covered⟩), ?_⟩
  rw [beq_iff_eq.mp same]
  exact isSmall_ofNat List.mem_cons_self (by decide) (by decide) covered

/-- A character is no capital and its own small letter, or it is a capital
that has a small letter, or it has a form of its own. -/
theorem smallLetter_cases (c : Char) :
    (¬IsCapital c ∧ smallLetter c = c) ∨
      (IsCapital c ∧ IsSmall (smallLetter c)) ∨ c = 'İ' ∨ c = 'Σ' := by
  by_cases ascii : c.toNat < 0x80
  · by_cases capital : c ∈ asciiCapitals
    · exact .inr (.inl (smallLetter_of_mem_asciiCapitals capital))
    · refine .inl ⟨?_, ?_⟩
      · rw [isCapital_iff]
        rintro (member | ⟨run, member, covered⟩)
        · simp only [List.mem_cons, List.not_mem_nil, or_false] at member
          omega
        · simp only [CaseRun.covers, Bool.and_eq_true, decide_eq_true_eq]
            at covered
          rcases List.mem_cons.mp member with rfl | beyond
          · exact capital (mem_asciiCapitals covered.1.1 covered.1.2)
          · have first := (orderly_caseRuns run beyond).1
            omega
      · rw [smallLetter, if_pos ascii,
          toLower_of_not_mem_asciiCapitals capital]
  · rw [smallLetter, if_neg ascii]
    split
    · rename_i run found
      have member := List.mem_of_find?_eq_some found
      have covered : run.covers c.toNat = true := by
        simpa using List.find?_some found
      obtain ⟨_, ordered, positive⟩ := orderly_caseRuns run member
      have memberToo := List.mem_cons_of_mem asciiRun member
      exact .inr (.inl ⟨isCapital_iff.mpr (.inr ⟨run, memberToo, covered⟩),
        isSmall_ofNat memberToo ordered positive covered⟩)
    · rename_i nowhere
      by_cases isCapital : IsCapital c
      · rcases isCapital_iff.mp isCapital with special | ⟨run, member, covered⟩
        · exact .inr (.inr (special_of_mem special))
        · rcases List.mem_cons.mp member with rfl | beyond
          · simp only [CaseRun.covers, Bool.and_eq_true, decide_eq_true_eq]
              at covered
            exact absurd (Nat.lt_of_le_of_lt covered.1.2 (by decide)) ascii
          · exact absurd covered (List.find?_eq_none.mp nowhere run beyond)
      · exact .inl ⟨isCapital, rfl⟩

theorem isCapital_sigma : IsCapital 'Σ' :=
  isCapital_iff.mpr (.inl (by decide))

theorem isCapital_dottedI : IsCapital 'İ' :=
  isCapital_iff.mpr (.inl (by decide))

theorem lowerAt_of_not_isCapital (noCapital : ¬IsCapital c)
    (before after : List Char) : lowerAt before c after = [c] := by
  have notSigma : c ≠ 'Σ' := fun same => noCapital (same ▸ isCapital_sigma)
  have notDotted : c ≠ 'İ' := fun same => noCapital (same ▸ isCapital_dottedI)
  have same : smallLetter c = c := by
    rcases smallLetter_cases c with ⟨_, same⟩ | ⟨capital, _⟩ | dotted | sigma
    · exact same
    · exact absurd capital noCapital
    · exact absurd dotted notDotted
    · exact absurd sigma notSigma
  rw [lowerAt, beq_false_of_ne notSigma, beq_false_of_ne notDotted, same]
  rfl

theorem isSmall_of_mem (member : c ∈ ['ς', 'σ', 'i', '\u0307']) :
    IsSmall c := by
  rw [IsSmall, smallCodes, Nat.testBit_or, Bool.or_eq_true, testBit_bitsOf]
  left
  simp only [List.mem_cons, List.not_mem_nil, or_false] at member
  rcases member with rfl | rfl | rfl | rfl <;> decide

theorem lowerAt_of_isCapital (capital : IsCapital c)
    (before after : List Char) :
    lowerAt before c after ≠ [] ∧ ∀ d ∈ lowerAt before c after, IsSmall d := by
  rw [lowerAt]
  split
  · split
    · exact ⟨by simp, fun d member => isSmall_of_mem (by simp_all)⟩
    · exact ⟨by simp, fun d member => isSmall_of_mem (by simp_all)⟩
  · split
    · exact ⟨by simp, fun d member => isSmall_of_mem (by simp_all)⟩
    · rename_i notSigma notDotted
      rw [beq_iff_eq] at notSigma notDotted
      refine ⟨by simp, ?_⟩
      intro d member
      rw [List.mem_singleton] at member
      rcases smallLetter_cases c with
        ⟨noCapital, _⟩ | ⟨_, small⟩ | dotted | sigma
      · exact absurd capital noCapital
      · rw [member]
        exact small
      · exact absurd dotted notDotted
      · exact absurd sigma notSigma

theorem not_isCapital_of_mem_lowerAt {before after : List Char} {c d : Char}
    (member : d ∈ lowerAt before c after) : ¬IsCapital d := by
  by_cases capital : IsCapital c
  · exact ((lowerAt_of_isCapital capital before after).2 d member).not_isCapital
  · rw [lowerAt_of_not_isCapital capital, List.mem_singleton] at member
    rw [member]
    exact capital

theorem not_isCapital_of_mem_lowerAfter {before cs : List Char} {d : Char}
    (member : d ∈ lowerAfter before cs) : ¬IsCapital d := by
  induction cs generalizing before with
  | nil => exact absurd member List.not_mem_nil
  | cons c cs induction =>
      rw [lowerAfter, List.mem_append] at member
      rcases member with first | others
      · exact not_isCapital_of_mem_lowerAt first
      · exact induction others

theorem lowerAfter_eq_self {before cs : List Char}
    (noCapital : ∀ c ∈ cs, ¬IsCapital c) : lowerAfter before cs = cs := by
  induction cs generalizing before with
  | nil => rfl
  | cons c cs induction =>
      obtain ⟨first, others⟩ := List.forall_mem_cons.mp noCapital
      rw [lowerAfter, lowerAt_of_not_isCapital first, induction others]
      rfl

end Polystore.Text
