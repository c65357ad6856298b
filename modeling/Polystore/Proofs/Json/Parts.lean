import Polystore.Json.Printer
import Polystore.Json.Reader
import Polystore.Proofs.Numeral.Decimal
import Polystore.Proofs.Text.Scanning

/-!
# Strings and numbers in documents

A quoted string is read back character by character, whatever stands behind
the closing mark.  A whole number is read back when something stands behind it
that cannot belong to a number.
-/

namespace Polystore.Reading

open Numeral

theorem le_foldl_utf8Size (cs : List Char) (total : Nat) :
    total + cs.length ≤ cs.foldl (fun total c => total + c.utf8Size) total := by
  induction cs generalizing total with
  | nil => simp
  | cons c cs induction =>
      have next := induction (total + c.utf8Size)
      have positive := c.utf8Size_pos
      rw [List.foldl_cons, List.length_cons]
      omega

theorem length_le_byteLength (cs : List Char) : cs.length ≤ byteLength cs := by
  have bound := le_foldl_utf8Size cs 0
  rw [Nat.zero_add] at bound
  exact bound

theorem hexValue?_hexDigit :
    ∀ n < 16, hexValue? (hexDigit n) = some n := by
  decide

theorem hexUnit_eq_ok {unit : Nat} (small : unit < 256) (rest : List Char) :
    hexUnit ('0' :: '0' :: hexDigit (unit / 16) :: hexDigit (unit % 16) ::
      rest) = .ok (unit, rest) := by
  have long := length_le_byteLength ('0' :: '0' :: hexDigit (unit / 16) ::
    hexDigit (unit % 16) :: rest)
  have enough : ¬byteLength ('0' :: '0' :: hexDigit (unit / 16) ::
      hexDigit (unit % 16) :: rest) < 4 := by
    simp only [List.length_cons] at long
    omega
  have high := hexValue?_hexDigit (unit / 16) (by omega)
  have low := hexValue?_hexDigit (unit % 16) (by omega)
  have zero : hexValue? '0' = some 0 := rfl
  have value : (unit / 16) * 16 + unit % 16 = unit := by omega
  rw [hexUnit, if_neg enough]
  simp only [List.take_succ_cons, List.take_zero, List.drop_succ_cons,
    List.drop_zero, List.mapM_cons, List.mapM_nil, zero, high, low, pure,
    bind, Option.bind_some, List.foldl_cons, List.foldl_nil, Nat.zero_mul,
    Nat.zero_add, value]

theorem escape_control (strict : Bool) {c : Char} (control : c.toNat < 0x20)
    (rest : List Char) :
    escape strict ('u' :: '0' :: '0' :: hexDigit (c.toNat / 16) ::
      hexDigit (c.toNat % 16) :: rest) = .ok (some c, rest) := by
  have unit := hexUnit_eq_ok (Nat.lt_trans control (by decide)) rest
  have noSurrogate :
      (decide (c.toNat < 0xd800) || decide (0xdfff < c.toNat)) = true := by
    have below : c.toNat < 0xd800 := by omega
    simp [below]
  simp only [escape, hexEscape, unit, bind, Except.bind, noSurrogate, if_true,
    Char.ofNat_toNat]

theorem stringFrom_plain (strict : Bool) (read : List Char) (steps : Nat)
    {c : Char} (noMark : c ≠ '"') (noEscape : c ≠ '\\')
    (noControl : ¬c.toNat < 0x20) (rest : List Char) :
    stringFrom strict (some read) (steps + 1) (c :: rest) =
      stringFrom strict (some (c :: read)) steps rest := by
  rw [stringFrom, if_neg noControl]
  · rfl
  · exact noMark
  · exact noEscape

/-- One written character is one step of reading. -/
theorem stringFrom_escaped (strict : Bool) (read : List Char) (steps : Nat)
    (c : Char) (rest : List Char) :
    stringFrom strict (some read) (steps + 1) (Json.escaped c ++ rest) =
      stringFrom strict (some (c :: read)) steps rest := by
  by_cases isMark : c = '"'
  · subst isMark
    rfl
  by_cases isEscape : c = '\\'
  · subst isEscape
    rfl
  by_cases isBackspace : c = '\x08'
  · subst isBackspace
    rfl
  by_cases isTab : c = '\t'
  · subst isTab
    rfl
  by_cases isNewline : c = '\n'
  · subst isNewline
    rfl
  by_cases isFormFeed : c = '\x0c'
  · subst isFormFeed
    rfl
  by_cases isReturn : c = '\r'
  · subst isReturn
    rfl
  by_cases control : c.toNat < 0x20
  · have written : Json.escaped c = ['\\', 'u', '0', '0',
        hexDigit (c.toNat / 16), hexDigit (c.toNat % 16)] := by
      simp [Json.escaped, isMark, isEscape, isBackspace, isTab, isNewline,
        isFormFeed, isReturn, control]
    have escaped := escape_control strict control rest
    rw [written]
    simp only [List.cons_append, List.nil_append, stringFrom, escaped, bind,
      Except.bind, Option.bind_some, pure]
  · have written : Json.escaped c = [c] := by
      simp [Json.escaped, isMark, isEscape, isBackspace, isTab, isNewline,
        isFormFeed, isReturn, control]
    rw [written]
    exact stringFrom_plain strict read steps isMark isEscape control rest

theorem stringFrom_flatMap_escaped (strict : Bool) (read : List Char)
    {steps : Nat} {cs : List Char} (enough : cs.length < steps)
    (rest : List Char) :
    stringFrom strict (some read) steps
        (cs.flatMap Json.escaped ++ '"' :: rest) =
      .ok (some (String.ofList (read.reverse ++ cs)), rest) := by
  induction cs generalizing read steps with
  | nil =>
      obtain ⟨steps, rfl⟩ : ∃ fewer, steps = fewer + 1 :=
        ⟨steps - 1, by simp at enough; omega⟩
      simp [stringFrom]
  | cons c cs induction =>
      rw [List.length_cons] at enough
      obtain ⟨steps, rfl⟩ : ∃ fewer, steps = fewer + 1 :=
        ⟨steps - 1, by omega⟩
      rw [List.flatMap_cons, List.append_assoc, stringFrom_escaped,
        induction (c :: read) (by omega)]
      simp

theorem length_le_flatMap_escaped (cs : List Char) :
    cs.length ≤ (cs.flatMap Json.escaped).length := by
  induction cs with
  | nil => simp
  | cons c cs induction =>
      have nonempty : 0 < (Json.escaped c).length := by
        unfold Json.escaped
        repeat' split
        all_goals simp
      rw [List.flatMap_cons, List.length_append, List.length_cons]
      omega

theorem string_quoted (strict : Bool) (text : String) (rest : List Char) :
    string strict (text.toList.flatMap Json.escaped ++ '"' :: rest) =
      .ok (some text, rest) := by
  have bound := length_le_flatMap_escaped text.toList
  rw [string, stringFrom_flatMap_escaped]
  · simp
  · rw [List.length_append]
    omega

/-- Nothing that could belong to a number stands at the head of the text. -/
def Delimited (rest : List Char) : Prop :=
  ∀ c cs, rest = c :: cs →
    c.isDigit = false ∧ c ≠ '.' ∧ c ≠ 'e' ∧ c ≠ 'E'

theorem delimited_nil : Delimited [] := by
  intro c cs isCons
  cases isCons

theorem delimited_cons {c : Char} (cs : List Char)
    (delimits : c ∈ [',', ']', '\x7d']) : Delimited (c :: cs) := by
  intro d ds isCons
  cases isCons
  simp only [List.mem_cons, List.not_mem_nil, or_false] at delimits
  rcases delimits with rfl | rfl | rfl <;> decide

theorem addWhole_of_fits {value : Nat} {digits : List Char}
    (fits : Nat.ofDigitChars 10 digits value ≤ maxUnsigned) :
    Scaled.addWhole false ⟨value, 0⟩ digits =
      (false, ⟨Nat.ofDigitChars 10 digits value, 0⟩) := by
  induction digits generalizing value with
  | nil => simp [Scaled.addWhole]
  | cons c cs induction =>
      rw [ofDigitChars_cons] at fits ⊢
      have soFar := le_ofDigitChars (value * 10 + digitValue c) cs
      have next : ¬value * 10 + digitValue c > maxUnsigned := by omega
      simp only [Scaled.addWhole, Bool.false_or, next, decide_false,
        Bool.false_eq_true, if_false]
      exact induction fits

theorem afterWhole_of_delimited (strict negative : Bool) (digits : List Char)
    {rest : List Char} (delimited : Delimited rest) :
    afterWhole strict negative digits rest =
      if (Scaled.addWhole false ⟨0, 0⟩ digits).1 then
        floatResult strict negative
          (Scaled.addWhole false ⟨0, 0⟩ digits).2.float rest
      else .ok (wholeNumber negative
        (Scaled.addWhole false ⟨0, 0⟩ digits).2.significand, rest) := by
  rw [afterWhole]
  obtain ⟨full, value⟩ := Scaled.addWhole false ⟨0, 0⟩ digits
  cases rest with
  | nil => rfl
  | cons c cs =>
      obtain ⟨_, noPoint, noSmall, noLarge⟩ := delimited c cs rfl
      dsimp only
      split
      · rename_i same
        exact absurd (List.cons.inj same).1 noPoint
      · rename_i same
        exact absurd (List.cons.inj same).1 noSmall
      · rename_i same
        exact absurd (List.cons.inj same).1 noLarge
      · rfl

theorem afterWhole_decimalText (strict negative : Bool) {n : Nat}
    (fits : n ≤ maxUnsigned) {rest : List Char} (delimited : Delimited rest) :
    afterWhole strict negative (decimalText n) rest =
      .ok (wholeNumber negative n, rest) := by
  have value := ofDigitChars_decimalText n
  have whole : Scaled.addWhole false ⟨0, 0⟩ (decimalText n) = _ :=
    addWhole_of_fits (by rw [value]; exact fits)
  rw [value] at whole
  rw [afterWhole_of_delimited strict negative _ delimited, whole]
  rfl

/-- The digits of a whole number: a single zero, or no zero in front. -/
structure IsWhole (digits : List Char) : Prop where
  areDigits : ∀ c ∈ digits, c.isDigit = true
  begins : digits = ['0'] ∨ ∃ c cs, digits = c :: cs ∧ c ≠ '0'

theorem isWhole_decimalText (n : Nat) : IsWhole (decimalText n) := by
  constructor
  · exact fun _ => isDigit_of_mem_decimalText
  · by_cases zero : n = 0
    · subst zero
      exact .inl decimalText_zero
    · exact .inr (decimalText_of_pos (Nat.pos_of_ne_zero zero))

theorem number_append (strict negative : Bool) {digits rest : List Char}
    (whole : IsWhole digits)
    (stops : ∀ c cs, rest = c :: cs → c.isDigit = false) :
    number strict negative (digits ++ rest) =
      afterWhole strict negative digits rest := by
  rcases whole.begins with rfl | ⟨c, cs, rfl, notZero⟩
  · cases rest with
    | nil => rfl
    | cons c cs =>
        have noDigit := stops c cs rfl
        simp only [List.cons_append, List.nil_append, number, noDigit,
          Bool.false_eq_true, if_false]
  · obtain ⟨taken, dropped⟩ :=
      Text.takeWhile_dropWhile_append whole.areDigits stops
    have isDigit := whole.areDigits c List.mem_cons_self
    rw [List.cons_append] at taken dropped ⊢
    rw [number, if_pos isDigit, taken, dropped]
    exact notZero

theorem number_decimalText (strict negative : Bool) {n : Nat}
    (fits : n ≤ maxUnsigned) {rest : List Char} (delimited : Delimited rest) :
    number strict negative (decimalText n ++ rest) =
      .ok (wholeNumber negative n, rest) := by
  rw [number_append strict negative (isWhole_decimalText n)
    fun c cs same => (delimited c cs same).1]
  exact afterWhole_decimalText strict negative fits delimited

end Polystore.Reading
