import Polystore.Proofs.Query.Sifting
import Polystore.Proofs.Text.Bytes
import Polystore.Proofs.Text.Lowercase

/-!
# The scan over the bytes of a clause

A clause can be scanned byte by byte, with cuts at places that are counted in
bytes and a jump behind every keyword.  This scan comes to an end, every place
at which it cuts is a boundary of the clause, and it yields what the scan over
the characters yields.
-/

namespace Polystore.Conjunction

open Text Grammar

/-- The bytes of the blanks of ASCII. -/
def isBlankByte (b : UInt8) : Bool :=
  b == byteOf ' ' || b == byteOf '\t' || b == byteOf '\n' ||
    b == byteOf '\x0c' || b == byteOf '\r'

/-- The length of the keyword where it stands at the head of the text as a
word. -/
def keywordLength? (keyword cs : List Char) : Option Nat := do
  let (head, _) ← cutAt? keyword.length cs
  if equalsIgnoringAsciiCase head keyword &&
      (bytes cs)[keyword.length]?.all isBlankByte then
    return keyword.length
  else none

/-- Where the scan stands: the mark of the quotation that is open, the place
at which the current part begins and the one that is looked at, the parts so
far, last one first, and the places at which the clause was cut. -/
structure Cursor where
  opened : Option UInt8
  start : Nat
  index : Nat
  parts : List (List Char)
  cuts : List Nat

/-- What comes of looking at one byte. -/
inductive Turn where
  | goesOn (next : Cursor)
  | ends (cuts : List Nat) (result : Except Unsupported (List (List Char)))

/-- At a blank of ASCII outside of quotations a keyword may follow.  There is
no result when the clause is cut within a character or beyond its end. -/
def turnAtBlank (clause : List Char) (cursor : Cursor) : Option Turn := do
  let (_, rest) ← cutAt? cursor.index clause
  let word := skipBlanks rest
  match keywordLength? ['a', 'n', 'd'] word with
  | some length =>
    let part ← slice? cursor.start cursor.index clause
    let behind :=
      cursor.index + ((bytes rest).length - (bytes word).length) + length
    return .goesOn ⟨none, behind, behind, part :: cursor.parts,
      cursor.start :: cursor.index :: cursor.cuts⟩
  | none =>
    let cuts := cursor.index :: cursor.cuts
    if (keywordLength? ['o', 'r'] word).isSome then
      return .ends cuts (.error .disjunction)
    return .goesOn { cursor with index := cursor.index + 1, cuts }

/-- One byte is looked at. -/
def turn (clause : List Char) (cursor : Cursor) (b : UInt8) : Option Turn :=
  match cursor.opened with
  | some mark =>
    some (.goesOn { cursor with
      opened := if b == mark then none else some mark
      index := cursor.index + 1 })
  | none =>
    if b == byteOf '\'' || b == byteOf '"' then
      some (.goesOn { cursor with
        opened := some b
        index := cursor.index + 1 })
    else if b == byteOf '(' || b == byteOf ')' then
      some (.ends cursor.cuts (.error .grouping))
    else if isBlankByte b then turnAtBlank clause cursor
    else some (.goesOn { cursor with index := cursor.index + 1 })

def close (clause : List Char) (cursor : Cursor) :
    Option (List Nat × Except Unsupported (List (List Char))) :=
  if cursor.opened.isSome then
    some (cursor.cuts, .error .unterminatedText)
  else do
    let (_, part) ← cutAt? cursor.start clause
    return (cursor.start :: cursor.cuts, .ok (cursor.parts.reverse ++ [part]))

theorem eq_length_of_keywordLength? {keyword cs : List Char} {length : Nat}
    (found : keywordLength? keyword cs = some length) :
    length = keyword.length := by
  simp only [keywordLength?, Option.bind_eq_bind,
    Option.bind_eq_some_iff] at found
  obtain ⟨_, _, found⟩ := found
  split at found
  · cases found
    rfl
  · cases found

theorem index_lt_of_turnAtBlank {clause : List Char} {cursor next : Cursor}
    (goesOn : turnAtBlank clause cursor = some (.goesOn next)) :
    cursor.index < next.index := by
  simp only [turnAtBlank, Option.bind_eq_bind, Option.bind_eq_some_iff]
    at goesOn
  obtain ⟨⟨_, rest⟩, _, goesOn⟩ := goesOn
  split at goesOn
  · rename_i length found
    obtain ⟨_, _, same⟩ := Option.bind_eq_some_iff.mp goesOn
    cases same
    have positive : length = 3 := eq_length_of_keywordLength? found
    show cursor.index < cursor.index + _ + length
    omega
  · split at goesOn
    · cases goesOn
    · cases goesOn
      exact Nat.lt_succ_self _

theorem index_lt_of_turn {clause : List Char} {cursor next : Cursor}
    {b : UInt8} (goesOn : turn clause cursor b = some (.goesOn next)) :
    cursor.index < next.index := by
  rw [turn] at goesOn
  split at goesOn
  · cases goesOn
    exact Nat.lt_succ_self _
  · split at goesOn
    · cases goesOn
      exact Nat.lt_succ_self _
    · split at goesOn
      · cases goesOn
      · split at goesOn
        · exact index_lt_of_turnAtBlank goesOn
        · cases goesOn
          exact Nat.lt_succ_self _

/-- The scan from a place on, with the places at which it has cut the clause.
Every turn moves on, so there are no more turns than bytes. -/
def run (clause : List Char) (cursor : Cursor) :
    Option (List Nat × Except Unsupported (List (List Char))) :=
  match _ : (bytes clause)[cursor.index]? with
  | none => close clause cursor
  | some b =>
    match _ : turn clause cursor b with
    | none => none
    | some (.ends cuts result) => some (cuts, result)
    | some (.goesOn next) => run clause next
termination_by (bytes clause).length - cursor.index
decreasing_by
  rename_i looked turned
  have within := (List.getElem?_eq_some_iff.mp looked).1
  have moves := index_lt_of_turn turned
  omega

/-- The conditions of a clause as the scan over its bytes yields them, with the
places at which the clause is cut. -/
def bytewise (clause : List Char) :
    Option (List Nat × Except Unsupported (List (List Char))) := do
  let (cuts, scanned) ← run clause ⟨none, 0, 0, [], []⟩
  return (cuts, do
    let parts := (← scanned).map trim
    if parts.any List.isEmpty then throw .emptyCondition
    return parts)

theorem isBlankByte_byteOf {c : Char} (ascii : c.toNat < 0x80) :
    isBlankByte (byteOf c) = isAsciiBlank c := by
  simp only [isBlankByte, isAsciiBlank]
  rw [byteOf_beq ascii (by decide), byteOf_beq ascii (by decide),
    byteOf_beq ascii (by decide), byteOf_beq ascii (by decide),
    byteOf_beq ascii (by decide)]

theorem isBlankByte_of_le {b : UInt8} (high : 0x80 ≤ b.toNat) :
    isBlankByte b = false := by
  simp only [isBlankByte]
  rw [beq_byteOf_of_le high (by decide), beq_byteOf_of_le high (by decide),
    beq_byteOf_of_le high (by decide), beq_byteOf_of_le high (by decide),
    beq_byteOf_of_le high (by decide)]
  rfl

theorem lt_of_isMark {c : Char} (isMark : IsMark c) : c.toNat < 0x80 := by
  rcases isMark with rfl | rfl <;> decide

theorem lt_of_isBracket {c : Char} (isBracket : IsBracket c) :
    c.toNat < 0x80 := by
  rcases isBracket with rfl | rfl <;> decide

theorem lt_of_isAsciiBlank {c : Char} (blank : isAsciiBlank c = true) :
    c.toNat < 0x80 := by
  simp only [isAsciiBlank, Bool.or_eq_true, beq_iff_eq] at blank
  rcases blank with (((rfl | rfl) | rfl) | rfl) | rfl <;> decide

theorem getElem?_bytes_append (front rest : List Char) :
    (bytes (front ++ rest))[(bytes front).length]? = (bytes rest)[0]? := by
  rw [bytes_append, List.getElem?_append_right (Nat.le_refl _), Nat.sub_self]

theorem all_isBlankByte (cs : List Char) :
    (bytes cs)[0]?.all isBlankByte = cs.head?.all isAsciiBlank := by
  cases cs with
  | nil => rfl
  | cons c cs =>
      by_cases ascii : c.toNat < 0x80
      · rw [bytes_cons, utf8EncodeChar_of_lt ascii]
        exact isBlankByte_byteOf ascii
      · obtain ⟨b, others, isChar⟩ : ∃ b others,
            String.utf8EncodeChar c = b :: others :=
          List.exists_cons_of_ne_nil String.utf8EncodeChar_ne_nil
        have high : 0x80 ≤ b.toNat :=
          le_of_mem_utf8EncodeChar ascii b (by simp [isChar])
        have noBlank : isAsciiBlank c = false := by
          rw [← Bool.not_eq_true]
          exact ascii ∘ lt_of_isAsciiBlank
        rw [bytes_cons, isChar]
        exact (isBlankByte_of_le high).trans noBlank.symm

theorem lt_toLower_iff (c : Char) :
    c.toLower.toNat < 0x80 ↔ c.toNat < 0x80 := by
  have same := apply_toLower (fun c => decide (c.toNat < 0x80)) (by decide) c
  simpa using same

theorem length_bytes_of_spells {keyword word : List Char}
    (isPlain : IsPlainKeyword keyword)
    (ascii : keyword.all (·.toNat < 0x80) = true)
    (spells : Spells keyword word) :
    (bytes word).length = keyword.length := by
  induction spells with
  | nil => rfl
  | @cons letter c keyword word folds _ induction =>
      obtain ⟨⟨_, notS, notK, _⟩, others⟩ := List.forall_mem_cons.mp isPlain
      rw [List.all_cons, Bool.and_eq_true, decide_eq_true_iff] at ascii
      have lower : c.toLower = letter := by
        simpa [foldsTo, notS, notK] using folds
      have asciiToo : c.toNat < 0x80 := by
        rw [← lt_toLower_iff, lower]
        exact ascii.1
      rw [bytes_cons, utf8EncodeChar_of_lt asciiToo, List.length_append,
        induction others ascii.2, Nat.add_comm]
      rfl

/-- The keyword is found by its bytes where it is found by its characters. -/
theorem keywordLength?_eq {keyword : List Char}
    (isPlain : IsPlainKeyword keyword)
    (ascii : keyword.all (·.toNat < 0x80) = true) (cs : List Char) :
    keywordLength? keyword cs =
      if startsWithKeyword keyword cs then some keyword.length else none := by
  split
  · rename_i starts
    obtain ⟨word, rest, spells, rfl, ends⟩ :=
      (startsWithKeyword_iff isPlain).mp starts
    have sameLength := length_bytes_of_spells isPlain ascii spells
    have isBlank : (bytes (word ++ rest))[keyword.length]?.all isBlankByte =
        true := by
      rw [← sameLength, getElem?_bytes_append, all_isBlankByte]
      simpa [Option.all_eq_true] using ends
    have cut : cutAt? keyword.length (word ++ rest) = some (word, rest) :=
      cutAt?_eq_some_iff.mpr ⟨rfl, sameLength⟩
    have same : equalsIgnoringAsciiCase word keyword = true :=
      (spells_iff_equalsIgnoringAsciiCase isPlain).mp spells
    refine Option.bind_eq_some_iff.mpr ⟨(word, rest), cut, ?_⟩
    exact if_pos (Bool.and_eq_true_iff.mpr ⟨same, isBlank⟩)
  · rename_i starts
    cases found : keywordLength? keyword cs with
    | none => rfl
    | some length =>
        refine absurd ?_ starts
        simp only [keywordLength?, Option.bind_eq_bind,
          Option.bind_eq_some_iff] at found
        obtain ⟨⟨head, rest⟩, cut, found⟩ := found
        split at found
        · rename_i both
          obtain ⟨same, isBlank⟩ := Bool.and_eq_true_iff.mp both
          obtain ⟨rfl, isLength⟩ := cutAt?_eq_some_iff.mp cut
          rw [← isLength, getElem?_bytes_append, all_isBlankByte] at isBlank
          exact (startsWithKeyword_iff isPlain).mpr ⟨head, rest,
            (spells_iff_equalsIgnoringAsciiCase isPlain).mpr same, rfl,
            by simpa [Option.all_eq_true] using isBlank⟩
        · cases found

/-- The cursor behind two texts: the one up to the current part and what
belongs to that part, last character first. -/
def cursorAt (opened : Option Char) (done soFar : List Char)
    (parts : List (List Char)) (cuts : List Nat) : Cursor where
  opened := opened.map byteOf
  start := (bytes done).length
  index := (bytes (done ++ soFar.reverse)).length
  parts
  cuts

/-- What the scan over the characters is inside of. -/
def position : Option Char → Position
  | none => .unquoted
  | some mark => .quoted mark

/-- From a cursor on the scan comes to a result, and the clause is cut at
boundaries only. -/
def Yields (clause : List Char) (cursor : Cursor)
    (result : Except Unsupported (List (List Char))) : Prop :=
  ∃ cuts, run clause cursor = some (cuts, result) ∧
    ∀ cut ∈ cuts, IsBoundary clause cut

variable {clause done soFar cs : List Char} {c : Char} {opened : Option Char}
  {cursor next : Cursor} {parts : List (List Char)} {cuts : List Nat}
  {b : UInt8} {result : Except Unsupported (List (List Char))}

theorem run_of_none (nothing : (bytes clause)[cursor.index]? = none) :
    run clause cursor = close clause cursor := by
  rw [run]
  split
  · rfl
  · rename_i looked
    rw [nothing] at looked
    cases looked

theorem run_of_some (here : (bytes clause)[cursor.index]? = some b) :
    run clause cursor =
      (turn clause cursor b).bind fun
        | .ends cuts result => some (cuts, result)
        | .goesOn next => run clause next := by
  rw [run]
  split
  · rename_i looked
    rw [here] at looked
    cases looked
  · rename_i looked
    rw [here] at looked
    cases looked
    split <;> simp_all

theorem Yields.of_goesOn (here : (bytes clause)[cursor.index]? = some b)
    (turned : turn clause cursor b = some (.goesOn next))
    (yields : Yields clause next result) : Yields clause cursor result := by
  obtain ⟨cuts, isRun, boundaries⟩ := yields
  refine ⟨cuts, ?_, boundaries⟩
  rw [run_of_some here, turned]
  exact isRun

theorem yields_of_ends (here : (bytes clause)[cursor.index]? = some b)
    (turned : turn clause cursor b = some (.ends cuts result))
    (boundaries : ∀ cut ∈ cuts, IsBoundary clause cut) :
    Yields clause cursor result := by
  refine ⟨cuts, ?_, boundaries⟩
  rw [run_of_some here, turned]
  rfl

theorem turn_of_le (high : 0x80 ≤ b.toNat)
    (areMarks : ∀ mark ∈ cursor.opened, mark.toNat < 0x80) :
    turn clause cursor b =
      some (.goesOn { cursor with index := cursor.index + 1 }) := by
  rw [turn]
  split
  · rename_i mark isOpen
    have differs : (b == mark) = false := by
      rw [← Bool.not_eq_true, beq_iff_eq]
      rintro rfl
      exact absurd high (Nat.not_le_of_lt (areMarks b isOpen))
    simp [differs, isOpen]
  · have unlike {d : Char} (ascii : d.toNat < 0x80) : (b == byteOf d) = false :=
      beq_byteOf_of_le high ascii
    rw [unlike (by decide), unlike (by decide), unlike (by decide),
      unlike (by decide), isBlankByte_of_le high]
    rfl

/-- The scan passes over the bytes of a character outside of ASCII. -/
theorem Yields.of_beyond {encoded others : List UInt8}
    (high : ∀ b ∈ encoded, 0x80 ≤ b.toNat)
    (here : (bytes clause).drop cursor.index = encoded ++ others)
    (areMarks : ∀ mark ∈ cursor.opened, mark.toNat < 0x80)
    (yields : Yields clause
      { cursor with index := cursor.index + encoded.length } result) :
    Yields clause cursor result := by
  induction encoded generalizing cursor with
  | nil => exact yields
  | cons b encoded induction =>
      obtain ⟨isHigh, areHigh⟩ := List.forall_mem_cons.mp high
      have looked : (bytes clause)[cursor.index]? = some b := by
        have isHead := congrArg (·[0]?) here
        simpa using isHead
      apply Yields.of_goesOn looked (turn_of_le isHigh areMarks)
      apply induction areHigh
      · rw [← List.drop_drop, here]
        rfl
      · exact areMarks
      · rwa [Nat.add_assoc, Nat.add_comm 1]

theorem index_cursorAt_cons (opened : Option Char) (done soFar : List Char)
    (parts : List (List Char)) (cuts : List Nat) (c : Char) :
    (cursorAt opened done (c :: soFar) parts cuts).index =
      (cursorAt opened done soFar parts cuts).index + c.utf8Size := by
  simp [cursorAt, Nat.add_assoc]

theorem drop_bytes (isClause : clause = done ++ (soFar.reverse ++ cs)) :
    (bytes clause).drop (cursorAt opened done soFar parts cuts).index =
      bytes cs := by
  rw [isClause, ← List.append_assoc, bytes_append]
  exact List.drop_left

theorem byte_at (isClause : clause = done ++ (soFar.reverse ++ c :: cs))
    (ascii : c.toNat < 0x80) :
    (bytes clause)[(cursorAt opened done soFar parts cuts).index]? =
      some (byteOf c) := by
  rw [isClause, ← List.append_assoc]
  refine (getElem?_bytes_append _ _).trans ?_
  rw [bytes_cons, utf8EncodeChar_of_lt ascii]
  rfl

theorem utf8Size_of_lt (ascii : c.toNat < 0x80) : c.utf8Size = 1 := by
  rw [← String.length_utf8EncodeChar, utf8EncodeChar_of_lt ascii]
  rfl

/-- A character at which the scan does nothing but keep track of the
quotation. -/
theorem turn_passed (ascii : c.toNat < 0x80)
    (areMarks : ∀ mark ∈ opened, IsMark mark)
    (nothing : opened = none → ¬IsBracket c ∧ isAsciiBlank c = false) :
    turn clause (cursorAt opened done soFar parts cuts) (byteOf c) =
      some (.goesOn
        (cursorAt (passed opened c) done (c :: soFar) parts cuts)) := by
  have moved : cursorAt (passed opened c) done (c :: soFar) parts cuts =
      { cursorAt opened done soFar parts cuts with
        opened := (passed opened c).map byteOf
        index := (cursorAt opened done soFar parts cuts).index + 1 } := by
    rw [← utf8Size_of_lt ascii, ← index_cursorAt_cons]
    rfl
  rw [moved]
  cases opened with
  | some mark =>
      have same := byteOf_beq ascii (lt_of_isMark (areMarks mark rfl))
      simp only [turn, cursorAt, Option.map_some, same, passed]
      split <;> rfl
  | none =>
      obtain ⟨noBracket, noBlank⟩ := nothing rfl
      simp only [IsBracket, not_or] at noBracket
      simp only [turn, cursorAt, Option.map_none, passed,
        byteOf_beq ascii (show ('\''.toNat < 0x80) by decide),
        byteOf_beq ascii (show ('"'.toNat < 0x80) by decide),
        byteOf_beq ascii (show ('('.toNat < 0x80) by decide),
        byteOf_beq ascii (show (')'.toNat < 0x80) by decide),
        isBlankByte_byteOf ascii, noBlank]
      simp only [beq_iff_eq, noBracket, Bool.or_eq_true, or_self, if_false,
        Bool.false_eq_true]
      split <;> rfl

theorem turn_bracket (isBracket : IsBracket c) :
    turn clause (cursorAt none done soFar parts cuts) (byteOf c) =
      some (.ends cuts (.error .grouping)) := by
  rcases isBracket with rfl | rfl <;> rfl

theorem turn_of_isAsciiBlank (blank : isAsciiBlank c = true) :
    turn clause (cursorAt none done soFar parts cuts) (byteOf c) =
      turnAtBlank clause (cursorAt none done soFar parts cuts) := by
  simp only [isAsciiBlank, Bool.or_eq_true, beq_iff_eq] at blank
  rcases blank with (((rfl | rfl) | rfl) | rfl) | rfl <;> rfl

theorem cutAt?_index (isClause : clause = done ++ (soFar.reverse ++ cs)) :
    cutAt? (cursorAt opened done soFar parts cuts).index clause =
      some (done ++ soFar.reverse, cs) := by
  rw [isClause, ← List.append_assoc]
  exact cutAt?_append _ _

theorem skipBlanks_cons_of_isAsciiBlank (blank : isAsciiBlank c = true)
    (cs : List Char) : skipBlanks (c :: cs) = skipBlanks cs :=
  List.dropWhile_cons_of_pos (isBlank_of_isAsciiBlank blank)

theorem turn_and {gap word rest : List Char}
    (isClause : clause =
      done ++ (soFar.reverse ++ c :: (gap ++ (word ++ rest))))
    (blank : isAsciiBlank c = true) (areBlank : gap ∈ blanks)
    (spells : Spells ['a', 'n', 'd'] word)
    (ends : ∀ d ∈ rest.head?, isAsciiBlank d = true) :
    turn clause (cursorAt none done soFar parts cuts) (byteOf c) =
      some (.goesOn (cursorAt none
        (done ++ (soFar.reverse ++ c :: (gap ++ word))) []
        (soFar.reverse :: parts)
        ((bytes done).length ::
          (bytes (done ++ soFar.reverse)).length :: cuts))) := by
  have skipped : skipBlanks (c :: (gap ++ (word ++ rest))) = word ++ rest := by
    rw [skipBlanks_cons_of_isAsciiBlank blank]
    exact skipBlanks_keyword (by decide) areBlank spells
  have starts : startsWithKeyword ['a', 'n', 'd'] (word ++ rest) = true :=
    (startsWithKeyword_iff isPlainKeyword_and).mpr
      ⟨word, rest, spells, rfl, ends⟩
  have found : keywordLength? ['a', 'n', 'd'] (word ++ rest) = some 3 := by
    rw [keywordLength?_eq isPlainKeyword_and (by decide), starts]
    rfl
  have three : (bytes word).length = 3 :=
    length_bytes_of_spells isPlainKeyword_and (by decide) spells
  have part : slice? (bytes done).length
      (bytes (done ++ soFar.reverse)).length clause = some soFar.reverse := by
    rw [isClause]
    exact slice?_append _ _ _
  rw [turn_of_isAsciiBlank blank]
  refine Option.bind_eq_some_iff.mpr ⟨_, cutAt?_index isClause, ?_⟩
  simp only [skipped, found]
  refine Option.bind_eq_some_iff.mpr ⟨_, part, ?_⟩
  have behind : (bytes (done ++ soFar.reverse)).length +
      ((bytes (c :: (gap ++ (word ++ rest)))).length -
        (bytes (word ++ rest)).length) + 3 =
      (bytes (done ++ (soFar.reverse ++ c :: (gap ++ word)))).length := by
    simp only [bytes_append, bytes_cons, List.length_append, three]
    omega
  simp only [cursorAt, List.reverse_nil, List.append_nil, ← behind]
  rfl

theorem turn_of_not_and
    (isClause : clause = done ++ (soFar.reverse ++ c :: cs))
    (blank : isAsciiBlank c = true)
    (noAnd : startsWithKeyword ['a', 'n', 'd'] (skipBlanks cs) = false) :
    turn clause (cursorAt none done soFar parts cuts) (byteOf c) =
      some (if startsWithKeyword ['o', 'r'] (skipBlanks cs) then
        .ends ((bytes (done ++ soFar.reverse)).length :: cuts)
          (.error .disjunction)
      else .goesOn (cursorAt none done (c :: soFar) parts
        ((bytes (done ++ soFar.reverse)).length :: cuts))) := by
  have moved : cursorAt none done (c :: soFar) parts
      ((bytes (done ++ soFar.reverse)).length :: cuts) =
      { cursorAt none done soFar parts cuts with
        index := (cursorAt none done soFar parts cuts).index + 1
        cuts := (bytes (done ++ soFar.reverse)).length :: cuts } := by
    rw [← utf8Size_of_lt (lt_of_isAsciiBlank blank), ← index_cursorAt_cons]
    rfl
  rw [turn_of_isAsciiBlank blank]
  refine Option.bind_eq_some_iff.mpr ⟨_, cutAt?_index isClause, ?_⟩
  simp only [skipBlanks_cons_of_isAsciiBlank blank,
    keywordLength?_eq isPlainKeyword_and (by decide), noAnd,
    keywordLength?_eq isPlainKeyword_or (by decide), moved]
  cases startsWithKeyword ['o', 'r'] (skipBlanks cs) with
  | true => rfl
  | false => rfl

theorem turn_or (isClause : clause = done ++ (soFar.reverse ++ c :: cs))
    (blank : isAsciiBlank c = true)
    (noAnd : startsWithKeyword ['a', 'n', 'd'] (skipBlanks cs) = false)
    (isOr : startsWithKeyword ['o', 'r'] (skipBlanks cs) = true) :
    turn clause (cursorAt none done soFar parts cuts) (byteOf c) =
      some (.ends ((bytes (done ++ soFar.reverse)).length :: cuts)
        (.error .disjunction)) := by
  rw [turn_of_not_and isClause blank noAnd, if_pos isOr]

theorem turn_blank (isClause : clause = done ++ (soFar.reverse ++ c :: cs))
    (blank : isAsciiBlank c = true)
    (noAnd : startsWithKeyword ['a', 'n', 'd'] (skipBlanks cs) = false)
    (noOr : startsWithKeyword ['o', 'r'] (skipBlanks cs) = false) :
    turn clause (cursorAt none done soFar parts cuts) (byteOf c) =
      some (.goesOn (cursorAt none done (c :: soFar) parts
        ((bytes (done ++ soFar.reverse)).length :: cuts))) := by
  rw [turn_of_not_and isClause blank noAnd, if_neg (by simp [noOr])]

theorem scan_passed (areMarks : ∀ mark ∈ opened, IsMark mark)
    (nothing : opened = none → ¬IsBracket c ∧ isAsciiBlank c = false) :
    scan (position opened) soFar (c :: cs) =
      scan (position (passed opened c)) (c :: soFar) cs := by
  cases opened with
  | some mark =>
      rw [position, scan, passed]
      split <;> rfl
  | none =>
      obtain ⟨noBracket, noBlank⟩ := nothing rfl
      by_cases isMark : IsMark c
      · rw [passed_mark isMark]
        exact scan_mark isMark
      · rw [passed_of_not_isMark isMark]
        exact scan_plain isMark noBracket noBlank

theorem Yields.of_passed
    (isClause : clause = done ++ (soFar.reverse ++ c :: cs))
    (areMarks : ∀ mark ∈ opened, IsMark mark)
    (nothing : opened = none → ¬IsBracket c ∧ isAsciiBlank c = false)
    (yields : Yields clause
      (cursorAt (passed opened c) done (c :: soFar) parts cuts) result) :
    Yields clause (cursorAt opened done soFar parts cuts) result := by
  by_cases ascii : c.toNat < 0x80
  · exact yields.of_goesOn (byte_at isClause ascii)
      (turn_passed ascii areMarks nothing)
  · have noMark : ∀ d ∈ [c], ¬IsMark d := by
      simpa using ascii ∘ lt_of_isMark
    have stays : passed opened c = opened := openMark_plain areMarks noMark
    have areAscii : ∀ mark ∈ opened.map byteOf, mark.toNat < 0x80 := by
      intro _ isByte
      obtain ⟨mark, isOpen, rfl⟩ := Option.map_eq_some_iff.mp isByte
      have asciiMark := lt_of_isMark (areMarks mark isOpen)
      rwa [toNat_byteOf asciiMark]
    apply Yields.of_beyond (le_of_mem_utf8EncodeChar ascii)
      (drop_bytes isClause) areAscii
    rw [String.length_utf8EncodeChar, ← index_cursorAt_cons]
    rwa [stays] at yields

theorem yields_finish (isClause : clause = done ++ soFar.reverse)
    (boundaries : ∀ cut ∈ cuts, IsBoundary clause cut) :
    Yields clause (cursorAt opened done soFar parts cuts)
      ((finish (position opened) soFar).map (parts.reverse ++ ·)) := by
  have nothing : (bytes clause)[
      (cursorAt opened done soFar parts cuts).index]? = none := by
    rw [isClause]
    exact List.getElem?_eq_none (Nat.le_refl _)
  rw [Yields, run_of_none nothing]
  cases opened with
  | some mark => exact ⟨cuts, rfl, boundaries⟩
  | none =>
      have cut : cutAt? (bytes done).length clause =
          some (done, soFar.reverse) := by
        rw [isClause]
        exact cutAt?_append _ _
      refine ⟨(bytes done).length :: cuts, ?_, ?_⟩
      · exact Option.bind_eq_some_iff.mpr ⟨_, cut, rfl⟩
      · rw [List.forall_mem_cons]
        exact ⟨⟨done, _, isClause, rfl⟩, boundaries⟩

/-- Where this is what is left of the clause, the scan over the bytes comes to
what the scan over the characters comes to. -/
def Follows (clause cs : List Char) : Prop :=
  ∀ (opened : Option Char) (done soFar : List Char) (parts : List (List Char))
    (cuts : List Nat), clause = done ++ (soFar.reverse ++ cs) →
    (∀ mark ∈ opened, IsMark mark) →
    (∀ cut ∈ cuts, IsBoundary clause cut) →
    Yields clause (cursorAt opened done soFar parts cuts)
      ((scan (position opened) soFar cs).map (parts.reverse ++ ·))

theorem map_append_map_cons {ε α : Type} (parts : List α) (part : α)
    (scanned : Except ε (List α)) :
    (scanned.map (part :: ·)).map (parts.reverse ++ ·) =
      scanned.map ((part :: parts).reverse ++ ·) := by
  cases scanned with
  | error reason => rfl
  | ok others => simp [Except.map]

/-- At a blank of ASCII outside of quotations a part ends, or the clause is
refused, or nothing happens. -/
theorem yields_of_isAsciiBlank
    (isClause : clause = done ++ (soFar.reverse ++ c :: cs))
    (blank : isAsciiBlank c = true)
    (boundaries : ∀ cut ∈ cuts, IsBoundary clause cut)
    (later : ∀ rest : List Char, rest.length ≤ cs.length →
      Follows clause rest) :
    Yields clause (cursorAt none done soFar parts cuts)
      ((scan .unquoted soFar (c :: cs)).map (parts.reverse ++ ·)) := by
  have looked : (bytes clause)[
      (cursorAt none done soFar parts cuts).index]? = some (byteOf c) :=
    byte_at isClause (lt_of_isAsciiBlank blank)
  have boundariesHere :
      ∀ cut ∈ (bytes (done ++ soFar.reverse)).length :: cuts,
        IsBoundary clause cut := by
    rw [List.forall_mem_cons]
    exact ⟨⟨done ++ soFar.reverse, c :: cs, by simp [isClause], rfl⟩,
      boundaries⟩
  cases isAnd : startsWithKeyword ['a', 'n', 'd'] (skipBlanks cs) with
  | true =>
      obtain ⟨word, rest, spells, isRest, ends⟩ :=
        (startsWithKeyword_iff isPlainKeyword_and).mp isAnd
      obtain ⟨gap, areBlank, isGap⟩ := exists_blanks_append_skipBlanks cs
      rw [isRest] at isGap
      subst isGap
      rw [scan_and blank areBlank spells ends, map_append_map_cons]
      apply Yields.of_goesOn looked
        (turn_and isClause blank areBlank spells ends)
      apply later rest (by simp; omega) none
      · simp [isClause]
      · simp
      · rw [List.forall_mem_cons]
        exact ⟨⟨done, _, isClause, rfl⟩, boundariesHere⟩
  | false =>
      cases isOr : startsWithKeyword ['o', 'r'] (skipBlanks cs) with
      | true =>
          rw [scan_or blank isAnd isOr]
          exact yields_of_ends looked (turn_or isClause blank isAnd isOr)
            boundariesHere
      | false =>
          rw [scan_blank blank isAnd isOr]
          apply Yields.of_goesOn looked (turn_blank isClause blank isAnd isOr)
          apply later cs (Nat.le_refl _) none
          · simp [isClause]
          · simp
          · exact boundariesHere

theorem follows (clause cs : List Char) : Follows clause cs := by
  -- A separator is passed in one step, so the induction is on the length.
  induction length : cs.length using Nat.strong_induction_on
    generalizing cs with
  | h size induction =>
      intro opened done soFar parts cuts isClause areMarks boundaries
      cases cs with
      | nil =>
          rw [List.append_nil] at isClause
          exact yields_finish isClause boundaries
      | cons c cs =>
          have later (rest : List Char) (shorter : rest.length ≤ cs.length) :
              Follows clause rest :=
            induction rest.length (by simp at length; omega) rest rfl
          by_cases isBracket : opened = none ∧ IsBracket c
          · obtain ⟨rfl, isBracket⟩ := isBracket
            rw [position, scan_bracket isBracket]
            exact yields_of_ends
              (byte_at isClause (lt_of_isBracket isBracket))
              (turn_bracket isBracket) boundaries
          by_cases blank : opened = none ∧ isAsciiBlank c = true
          · obtain ⟨rfl, blank⟩ := blank
            exact yields_of_isAsciiBlank isClause blank boundaries later
          · have nothing (unquoted : opened = none) :
                ¬IsBracket c ∧ isAsciiBlank c = false := by
              simpa [unquoted] using And.intro isBracket blank
            rw [scan_passed areMarks nothing]
            apply Yields.of_passed isClause areMarks nothing
            exact later cs (Nat.le_refl _) _ _ _ _ _ (by simp [isClause])
              (isMark_of_mem_passed areMarks) boundaries

/-- The conditions of a clause do not depend on whether it is scanned over its
bytes or its characters, and it is cut at its boundaries only. -/
theorem bytewise_eq (clause : List Char) :
    ∃ cuts, bytewise clause = some (cuts, split clause) ∧
      ∀ cut ∈ cuts, IsBoundary clause cut := by
  have yields : Yields clause (cursorAt none [] [] [] [])
      ((scan (position none) [] clause).map ([].reverse ++ ·)) :=
    follows clause clause none [] [] [] [] rfl (by simp) (by simp)
  obtain ⟨cuts, isRun, boundaries⟩ := yields
  have same : (scan .unquoted [] clause).map ([].reverse ++ ·) =
      scan .unquoted [] clause := by
    cases scan .unquoted [] clause <;> rfl
  refine ⟨cuts, ?_, boundaries⟩
  rw [position, same] at isRun
  exact Option.bind_eq_some_iff.mpr ⟨_, isRun, rfl⟩

end Polystore.Conjunction
