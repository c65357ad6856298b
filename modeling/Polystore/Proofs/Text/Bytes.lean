import Mathlib.Data.List.Basic
import Polystore.Text.Blank

/-!
# Texts as bytes

A text is stored as bytes, one for a character of ASCII and several for any
other one.  A place in the text is counted in bytes, and the text can be cut
there only where a character ends.
-/

namespace Polystore.Text

def bytes (cs : List Char) : List UInt8 :=
  cs.flatMap String.utf8EncodeChar

/-- The place lies within the text, and no character goes across it. -/
def IsBoundary (cs : List Char) (place : Nat) : Prop :=
  ∃ front rest, cs = front ++ rest ∧ (bytes front).length = place

/-- The texts before and behind a place, if the text can be cut there. -/
def cutAt? : Nat → List Char → Option (List Char × List Char)
  | 0, cs => some ([], cs)
  | _ + 1, [] => none
  | place + 1, c :: cs =>
    if c.utf8Size ≤ place + 1 then
      (cutAt? (place + 1 - c.utf8Size) cs).map fun (front, rest) =>
        (c :: front, rest)
    else none

/-- The text between two places, if the text can be cut there. -/
def slice? (first last : Nat) (cs : List Char) : Option (List Char) := do
  guard (first ≤ last)
  let (_, behind) ← cutAt? first cs
  let (piece, _) ← cutAt? (last - first) behind
  return piece

variable {cs front rest : List Char} {c : Char}

@[simp] theorem bytes_nil : bytes [] = [] := rfl

@[simp] theorem bytes_cons (c : Char) (cs : List Char) :
    bytes (c :: cs) = String.utf8EncodeChar c ++ bytes cs := rfl

@[simp] theorem bytes_append (front rest : List Char) :
    bytes (front ++ rest) = bytes front ++ bytes rest :=
  List.flatMap_append

theorem length_bytes_cons (c : Char) (cs : List Char) :
    (bytes (c :: cs)).length = c.utf8Size + (bytes cs).length := by
  rw [bytes_cons, List.length_append, String.length_utf8EncodeChar]

theorem cutAt?_add (c : Char) (cs : List Char) (place : Nat) :
    cutAt? (c.utf8Size + place) (c :: cs) =
      (cutAt? place cs).map fun (front, rest) => (c :: front, rest) := by
  obtain ⟨size, isSize⟩ := Nat.exists_eq_add_of_lt c.utf8Size_pos
  have amount : c.utf8Size + place = (size + place) + 1 := by omega
  have left : size + place + 1 - c.utf8Size = place := by omega
  rw [amount, cutAt?, if_pos (by omega), left]

theorem cutAt?_append (front rest : List Char) :
    cutAt? (bytes front).length (front ++ rest) = some (front, rest) := by
  induction front with
  | nil => cases rest <;> rfl
  | cons c front induction =>
      rw [length_bytes_cons, List.cons_append, cutAt?_add, induction]
      rfl

/-- A text is cut at its boundaries, and nowhere else. -/
theorem cutAt?_eq_some_iff {place : Nat} :
    cutAt? place cs = some (front, rest) ↔
      cs = front ++ rest ∧ (bytes front).length = place := by
  constructor
  · intro cut
    induction cs generalizing place front with
    | nil =>
        cases place with
        | zero =>
            cases cut
            exact ⟨rfl, rfl⟩
        | succ place => cases cut
    | cons c cs induction =>
        cases place with
        | zero =>
            cases cut
            exact ⟨rfl, rfl⟩
        | succ place =>
            rw [cutAt?] at cut
            split at cut
            · obtain ⟨⟨others, behind⟩, isCut, same⟩ :=
                Option.map_eq_some_iff.mp cut
              cases same
              obtain ⟨rfl, isPlace⟩ := induction isCut
              refine ⟨rfl, ?_⟩
              rw [length_bytes_cons, isPlace]
              omega
            · cases cut
  · rintro ⟨rfl, rfl⟩
    exact cutAt?_append front rest

theorem slice?_append (before piece after : List Char) :
    slice? (bytes before).length (bytes (before ++ piece)).length
      (before ++ (piece ++ after)) = some piece := by
  have whole : (bytes (before ++ piece)).length =
      (bytes before).length + (bytes piece).length := by
    rw [bytes_append, List.length_append]
  rw [whole, slice?, guard, if_pos (Nat.le_add_right _ _),
    Nat.add_sub_cancel_left, cutAt?_append]
  simp [cutAt?_append]

def byteOf (c : Char) : UInt8 := UInt8.ofNat c.toNat

theorem utf8EncodeChar_of_lt (ascii : c.toNat < 0x80) :
    String.utf8EncodeChar c = [byteOf c] := by
  have small : c.val.toNat ≤ 0x7f := Nat.le_of_lt_succ ascii
  rw [String.utf8EncodeChar]
  exact if_pos small

theorem toNat_byteOf (ascii : c.toNat < 0x80) : (byteOf c).toNat = c.toNat := by
  rw [byteOf, UInt8.toNat_ofNat']
  omega

theorem byteOf_beq {d : Char} (ascii : c.toNat < 0x80)
    (asciiToo : d.toNat < 0x80) : (byteOf c == byteOf d) = (c == d) := by
  rw [Bool.eq_iff_iff, beq_iff_eq, beq_iff_eq, ← UInt8.toNat_inj,
    toNat_byteOf ascii, toNat_byteOf asciiToo]
  constructor
  · intro same
    rw [← Char.ofNat_toNat c, same, Char.ofNat_toNat]
  · exact congrArg Char.toNat

theorem beq_byteOf_of_le {b : UInt8} (high : 0x80 ≤ b.toNat)
    (ascii : c.toNat < 0x80) : (b == byteOf c) = false := by
  rw [← Bool.not_eq_true, beq_iff_eq]
  rintro rfl
  rw [toNat_byteOf ascii] at high
  omega

/-- Beyond ASCII no byte looks like a character of ASCII. -/
theorem le_of_mem_utf8EncodeChar (beyond : ¬c.toNat < 0x80) :
    ∀ b ∈ String.utf8EncodeChar c, 0x80 ≤ b.toNat := by
  have large : ¬c.val.toNat ≤ 0x7f := fun small =>
    beyond (Nat.lt_succ_of_le small)
  intro b member
  rw [String.utf8EncodeChar] at member
  simp only [if_neg large] at member
  split at member
  · simp only [List.mem_cons, List.not_mem_nil, or_false] at member
    rcases member with rfl | rfl <;> rw [UInt8.toNat_ofNat'] <;> omega
  · split at member
    · simp only [List.mem_cons, List.not_mem_nil, or_false] at member
      rcases member with rfl | rfl | rfl <;> rw [UInt8.toNat_ofNat'] <;> omega
    · simp only [List.mem_cons, List.not_mem_nil, or_false] at member
      rcases member with rfl | rfl | rfl | rfl <;>
        rw [UInt8.toNat_ofNat'] <;> omega

end Polystore.Text
