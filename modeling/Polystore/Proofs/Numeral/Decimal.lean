import Polystore.Numeral.Bounded
import Polystore.Numeral.Layout

/-!
# Decimal numerals

The digits that a natural number is written with are read back as that number.
Reading keeps a bound at every digit; the value of the digits so far never
exceeds the value of all of them, so only the number itself has to keep it.
-/

namespace Polystore.Numeral

theorem ofDigitChars_cons (value : Nat) (c : Char) (cs : List Char) :
    Nat.ofDigitChars 10 (c :: cs) value =
      Nat.ofDigitChars 10 cs (value * 10 + digitValue c) := by
  have zero : '0'.toNat = 48 := rfl
  rw [Nat.ofDigitChars_cons, Nat.mul_comm, digitValue, zero]

theorem le_ofDigitChars (value : Nat) (digits : List Char) :
    value ≤ Nat.ofDigitChars 10 digits value := by
  induction digits generalizing value with
  | nil => simp
  | cons c cs induction =>
      rw [ofDigitChars_cons]
      have next := induction (value * 10 + digitValue c)
      omega

theorem isDigit_of_mem_decimalText {n : Nat} {c : Char}
    (member : c ∈ decimalText n) : c.isDigit = true :=
  Nat.isDigit_of_mem_toDigits (by decide) (by decide) member

theorem decimalText_head (n : Nat) :
    ∃ c cs, decimalText n = c :: cs ∧ c.isDigit = true := by
  cases digits : decimalText n with
  | nil => exact absurd digits Nat.toDigits_ne_nil
  | cons c cs =>
      exact ⟨c, cs, rfl, isDigit_of_mem_decimalText (n := n)
        (by simp [digits])⟩

theorem ofDigitChars_decimalText (n : Nat) :
    Nat.ofDigitChars 10 (decimalText n) 0 = n :=
  Nat.ofDigitChars_ten_toDigits

theorem decimalText_zero : decimalText 0 = ['0'] := rfl

theorem decimalText_of_lt {n : Nat} (small : n < 10) :
    decimalText n = [n.digitChar] :=
  Nat.toDigits_of_lt_base small

theorem decimalText_of_pos {n : Nat} (positive : 0 < n) :
    ∃ c cs, decimalText n = c :: cs ∧ c ≠ '0' := by
  induction n using Nat.strongRecOn with
  | ind n induction =>
      by_cases small : n < 10
      · refine ⟨n.digitChar, [], decimalText_of_lt small, ?_⟩
        have cases : ∀ m, m < 10 → 0 < m → m.digitChar ≠ '0' := by decide
        exact cases n small positive
      · obtain ⟨c, cs, text, notZero⟩ :=
          induction (n / 10) (by omega) (by omega)
        refine ⟨c, cs ++ [Nat.digitChar (n % 10)], ?_, notZero⟩
        have split := Nat.toDigits_of_base_le (b := 10) (n := n) (by decide)
          (by omega)
        rw [decimalText, split, ← decimalText, text, List.cons_append]

theorem boundedFrom_eq_ok {bound value : Nat} (exceeded : NumeralFault)
    {digits : List Char}
    (areDigits : ∀ c ∈ digits, c.isDigit = true)
    (fits : Nat.ofDigitChars 10 digits value ≤ bound) :
    boundedFrom bound exceeded value digits =
      .ok (Nat.ofDigitChars 10 digits value) := by
  induction digits generalizing value with
  | nil => simp [boundedFrom]
  | cons c cs induction =>
      rw [ofDigitChars_cons] at fits ⊢
      have soFar := le_ofDigitChars (value * 10 + digitValue c) cs
      have next : value * 10 + digitValue c ≤ bound := by omega
      rw [boundedFrom, if_pos (areDigits c List.mem_cons_self)]
      simp only [next, if_true]
      exact induction
        (fun d member => areDigits d (List.mem_cons_of_mem _ member)) fits

theorem le_of_boundedFrom_eq_ok {bound : Nat} {exceeded : NumeralFault}
    {value n : Nat} {digits : List Char} (start : value ≤ bound)
    (read : boundedFrom bound exceeded value digits = .ok n) : n ≤ bound := by
  induction digits generalizing value with
  | nil =>
      cases read
      exact start
  | cons c cs induction =>
      rw [boundedFrom] at read
      by_cases isDigit : c.isDigit = true
      · rw [if_pos isDigit] at read
        by_cases next : value * 10 + digitValue c ≤ bound
        · simp only [next, if_true] at read
          exact induction next read
        · simp only [next, if_false] at read
          cases read
      · rw [if_neg isDigit] at read
        cases read

theorem le_of_bounded_eq_ok {bound : Nat} {exceeded : NumeralFault} {n : Nat}
    {digits : List Char} (read : bounded bound exceeded digits = .ok n) :
    n ≤ bound := by
  cases digits with
  | nil => cases read
  | cons c cs => exact le_of_boundedFrom_eq_ok (Nat.zero_le bound) read

theorem le_of_unsigned?_eq_ok {cs : List Char} {n : Nat}
    (read : unsigned? cs = .ok n) : n ≤ maxUnsigned := by
  unfold unsigned? at read
  split at read
  · cases read
  · exact le_of_bounded_eq_ok read
  · exact le_of_bounded_eq_ok read

theorem unsigned?_decimalText {n : Nat} (fits : n ≤ maxUnsigned) :
    unsigned? (decimalText n) = .ok n := by
  have areDigits : ∀ c ∈ decimalText n, c.isDigit = true :=
    fun _ => isDigit_of_mem_decimalText
  have value := ofDigitChars_decimalText n
  have denotesLittle : Nat.ofDigitChars 10 (decimalText n) 0 ≤ maxUnsigned :=
    value.symm ▸ fits
  have read := boundedFrom_eq_ok .tooLarge areDigits denotesLittle
  rw [value] at read
  cases text : decimalText n with
  | nil => exact absurd text Nat.toDigits_ne_nil
  | cons c cs =>
      rw [text] at read areDigits
      have notPlus : c ≠ '+' := by
        rintro rfl
        exact absurd (areDigits '+' List.mem_cons_self) (by decide)
      have noSign : unsigned? (c :: cs) =
          bounded maxUnsigned .tooLarge (c :: cs) := by
        unfold unsigned?
        split
        · contradiction
        · rename_i same
          exact absurd (List.cons.inj same).1 notPlus
        · rfl
      rw [noSign]
      exact read

end Polystore.Numeral
