import Mathlib.Algebra.BigOperators.Fin
import Mathlib.Data.Int.ModEq
import Mathlib.Tactic.Ring
import Polystore.Proofs.Text.Lowercase
import Polystore.Query.Signature

/-!
# Signatures as hashes

The rolling hash of a sequence of units is a polynomial at 31 in which the
last unit is the constant term, kept modulo `2 ^ 32`.  The hash is read as a
signed number and loses its sign, which leaves room for `2 ^ 31`.

Layout and the case of ASCII letters are gone before anything is hashed or
cut, so queries with the same words share their signature.
-/

namespace Polystore.Signature

open Text

/-- The units of a text in the 16-bit encoding: a character is its own code
point, or beyond 16 bits a pair of surrogates with ten bits in each. -/
inductive Encodes : List Char → List Nat → Prop where
  | nil : Encodes [] []
  | single {c : Char} {cs : List Char} {units : List Nat} :
      c.toNat < 0x10000 → Encodes cs units →
      Encodes (c :: cs) (c.toNat :: units)
  | pair {c : Char} {cs : List Char} {high low : Nat} {units : List Nat} :
      0xd800 ≤ high → high < 0xdc00 → 0xdc00 ≤ low → low < 0xe000 →
      c.toNat = 0x10000 + (high - 0xd800) * 0x400 + (low - 0xdc00) →
      Encodes cs units → Encodes (c :: cs) (high :: low :: units)

/-- Every text has its units and no other ones. -/
theorem encodes_iff {cs : List Char} {encoded : List Nat} :
    Encodes cs encoded ↔ encoded = cs.flatMap units := by
  constructor
  · intro isEncoded
    induction isEncoded with
    | nil => rfl
    | single plain _ induction =>
        rw [List.flatMap_cons, units, if_pos plain, ← induction]
        rfl
    | @pair c _ high low _ _ _ _ _ isPair _ induction =>
        have beyond : ¬c.toNat < 0x10000 := by omega
        have isHigh : 0xd800 + (c.toNat - 0x10000) / 0x400 = high := by omega
        have isLow : 0xdc00 + (c.toNat - 0x10000) % 0x400 = low := by omega
        rw [List.flatMap_cons, units, if_neg beyond, ← induction]
        simp only [isHigh, isLow, List.cons_append, List.nil_append]
  · rintro rfl
    induction cs with
    | nil => exact .nil
    | cons c cs induction =>
        rw [List.flatMap_cons]
        by_cases plain : c.toNat < 0x10000
        · rw [units, if_pos plain]
          exact .single plain induction
        · rw [units, if_neg plain]
          have codePoint : c.toNat < 0xd800 ∨
              0xdfff < c.toNat ∧ c.toNat < 0x110000 := c.valid
          exact .pair (by omega) (by omega) (by omega) (by omega) (by omega)
            induction

theorem Encodes.lt {cs : List Char} {units : List Nat}
    (isEncoded : Encodes cs units) : ∀ unit ∈ units, unit < 2 ^ 16 := by
  induction isEncoded with
  | nil => exact fun _ member => absurd member List.not_mem_nil
  | single plain _ induction =>
      exact List.forall_mem_cons.mpr ⟨plain, induction⟩
  | pair _ high _ low _ _ induction =>
      refine List.forall_mem_cons.mpr ⟨by omega, ?_⟩
      exact List.forall_mem_cons.mpr ⟨by omega, induction⟩

/-- The polynomial at 31 whose constant term is the last unit. -/
def polynomial (units : List Nat) : Nat :=
  ∑ k : Fin units.length, units[k] * 31 ^ (units.length - 1 - k)

theorem polynomial_cons (unit : Nat) (units : List Nat) :
    polynomial (unit :: units) =
      unit * 31 ^ units.length + polynomial units := by
  rw [polynomial, polynomial]
  simp only [List.length_cons]
  rw [Fin.sum_univ_succ]
  congr 1
  apply Finset.sum_congr rfl
  intro k _
  have exponent : units.length + 1 - 1 - k.succ.val =
      units.length - 1 - k.val := by
    rw [Fin.val_succ]
    omega
  rw [exponent]
  rfl

/-- Rolling over units multiplies what was there before by 31 for each of
them. -/
theorem foldl_rolling (start : Nat) (units : List Nat) :
    units.foldl (fun hash unit => hash * 31#32 + BitVec.ofNat 32 unit)
        (BitVec.ofNat 32 start) =
      BitVec.ofNat 32 (start * 31 ^ units.length + polynomial units) := by
  induction units generalizing start with
  | nil => simp [polynomial]
  | cons unit units induction =>
      have step : BitVec.ofNat 32 start * 31#32 + BitVec.ofNat 32 unit =
          BitVec.ofNat 32 (start * 31 + unit) := by
        rw [BitVec.ofNat_add, BitVec.ofNat_mul]
      rw [List.foldl_cons, step, induction, polynomial_cons,
        List.length_cons]
      congr 1
      ring

theorem hashUnits_eq (units : List Nat) :
    hashUnits units = BitVec.ofNat 32 (polynomial units) := by
  have rolled := foldl_rolling 0 units
  rwa [Nat.zero_mul, Nat.zero_add] at rolled

/-- Read as a signed number, the hash differs from the polynomial by a
multiple of `2 ^ 32`. -/
theorem toInt_hashUnits (units : List Nat) :
    (hashUnits units).toInt ≡ (polynomial units : Int) [ZMOD 2 ^ 32] := by
  rw [hashUnits_eq, BitVec.toInt_ofNat']
  exact Int.bmod_emod

/-- Small letters for the capitals of ASCII do not change where the spaces
between words go. -/
theorem map_toLower_unwords (parts : List (List Char)) :
    (unwords parts).map Char.toLower =
      unwords (parts.map (·.map Char.toLower)) := by
  induction parts with
  | nil => rfl
  | cons part parts induction =>
      cases parts with
      | nil => rfl
      | cons next parts =>
          rw [unwords, List.map_append, List.map_cons, induction]
          · rfl
          · exact List.cons_ne_nil next parts

theorem normalizeChars_eq {cs ds : List Char}
    (sameWords : (words cs).map (·.map Char.toLower) =
      (words ds).map (·.map Char.toLower)) :
    normalizeChars cs = normalizeChars ds := by
  have lowered : lower (unwords (words cs)) = lower (unwords (words ds)) :=
    calc lower (unwords (words cs))
        = lower ((unwords (words cs)).map Char.toLower) :=
          (lower_map_toLower _).symm
      _ = lower ((unwords (words ds)).map Char.toLower) := by
          rw [map_toLower_unwords, map_toLower_unwords, sameWords]
      _ = lower (unwords (words ds)) := lower_map_toLower _
  rw [normalizeChars, normalizeChars, lowered]

/-- A signature is the absolute value of the polynomial of the units of the
normalised text, taken modulo `2 ^ 32` into the signed numbers of 32 bits.
Queries whose words differ in the case of ASCII letters alone share it. -/
theorem ofQuery_eq_polynomial (query other : String) :
    (∃ (encoded : List Nat) (hash : Int),
      Encodes (normalize query).toList encoded ∧
      (∀ unit ∈ encoded, unit < 2 ^ 16) ∧
      hash ≡ ∑ k : Fin encoded.length,
        (encoded[k] : Int) * 31 ^ (encoded.length - 1 - k) [ZMOD 2 ^ 32] ∧
      -2 ^ 31 ≤ hash ∧ hash < 2 ^ 31 ∧ hash.natAbs ≤ 2 ^ 31 ∧
      (ofQuery query).text = "q_" ++ toString hash.natAbs) ∧
    ((words query.toList).map (·.map Char.toLower) =
        (words other.toList).map (·.map Char.toLower) →
      ofQuery query = ofQuery other) := by
  constructor
  · have isEncoded : Encodes (normalizeChars query.toList) _ :=
      encodes_iff.mpr rfl
    let hash := hashUnits ((normalizeChars query.toList).flatMap units)
    have atLeast : -2 ^ 31 ≤ hash.toInt := BitVec.le_toInt hash
    have below : hash.toInt < 2 ^ 31 := BitVec.toInt_lt
    refine ⟨_, hash.toInt, ?_, isEncoded.lt, ?_, atLeast, below, by omega,
      rfl⟩
    · rw [normalize, String.toList_ofList]
      exact isEncoded
    · have congruent := toInt_hashUnits
        ((normalizeChars query.toList).flatMap units)
      simpa only [polynomial, Nat.cast_sum, Nat.cast_mul, Nat.cast_pow,
        Nat.cast_ofNat] using congruent
  · intro sameWords
    rw [ofQuery, ofQuery, normalizeChars_eq sameWords]

theorem ofQuery_other_layout :
    (words "SELECT Σ  FROM accounts".toList).map (·.map Char.toLower) =
        (words " select Σ\nFrom ACCOUNTS".toList).map (·.map Char.toLower) ∧
      ofQuery "SELECT Σ  FROM accounts" =
        ofQuery " select Σ\nFrom ACCOUNTS" := by
  have sameWords :
      (words "SELECT Σ  FROM accounts".toList).map (·.map Char.toLower) =
        (words " select Σ\nFrom ACCOUNTS".toList).map
          (·.map Char.toLower) := by
    decide +kernel
  exact ⟨sameWords, (ofQuery_eq_polynomial _ _).2 sameWords⟩

end Polystore.Signature
