import Polystore.Proofs.Query.Addressing

/-!
# How texts are recognised

The dialect of a text depends on its beginning alone: on the first word, when
a blank ends it, or on the call syntax.  A selection is therefore a relational
text however it goes on, and whatever a document store can read as a call
counts as a document query, on the same collection.
-/

namespace Polystore

open Text Grammar

namespace Text

theorem isKeyword_iff {keyword word : List Char} :
    isKeyword keyword word = true ↔ Spells keyword word := by
  rw [isKeyword, beq_iff_eq, afterKeyword?_eq_some_iff]
  constructor
  · rintro ⟨spelled, spells, rfl⟩
    rwa [List.append_nil]
  · intro spells
    exact ⟨word, spells, (List.append_nil word).symm⟩

/-- Without the two letters that fold into ASCII, a word spells its own small
letters and nothing else. -/
theorem spells_iff_map_toLower {keyword word : List Char}
    (plain : ∀ c ∈ word, c ≠ 'ſ' ∧ c ≠ '\u212a') :
    Spells keyword word ↔ word.map Char.toLower = keyword := by
  induction word generalizing keyword with
  | nil => cases keyword <;> simp [Spells]
  | cons c word induction =>
      obtain ⟨⟨notLong, notKelvin⟩, others⟩ := List.forall_mem_cons.mp plain
      cases keyword with
      | nil => simp [Spells]
      | cons letter keyword =>
          have folds : foldsTo letter c = true ↔ c.toLower = letter := by
            simp [foldsTo, notLong, notKelvin]
          rw [Spells, List.forall₂_cons, folds, ← Spells, induction others,
            List.map_cons, List.cons.injEq]

theorem isWord_of_toLower {c : Char} (word : isWord c.toLower = true) :
    isWord c = true := by
  unfold Char.toLower at word
  split at word
  · rename_i upper
    have isUpper : c.isUpper = true := decide_eq_true upper
    have isAlpha : c.isAlpha = true := by
      show (c.isUpper || c.isLower) = true
      rw [isUpper, Bool.true_or]
    have ascii : c.toNat < 0x80 :=
      Nat.lt_of_le_of_lt (UInt32.le_iff_toNat_le.mp upper.2) (by decide)
    simp [isWord, ascii, isAsciiWord, Char.isAlphanum, isAlpha]
  · exact word

theorem isWord_of_mem_spells {keyword word : List Char}
    (areWord : ∀ letter ∈ keyword, isWord letter = true)
    (spells : Spells keyword word) : ∀ c ∈ word, isWord c = true := by
  induction spells with
  | nil => simp
  | @cons letter c keyword word folds _ induction =>
      obtain ⟨isLetter, others⟩ := List.forall_mem_cons.mp areWord
      refine List.forall_mem_cons.mpr ⟨?_, induction others⟩
      simp only [foldsTo, Bool.or_eq_true, Bool.and_eq_true, beq_iff_eq]
        at folds
      rcases folds with (same | ⟨_, rfl⟩) | ⟨_, rfl⟩
      · exact isWord_of_toLower (same ▸ isLetter)
      · decide +kernel
      · decide +kernel

end Text

namespace Query

variable {gap word tail : List Char}

theorem name?_first (areBlank : gap ∈ blanks) (isName : word ∈ names)
    (ends : ∀ c ∈ tail.head?, isBlank c = true) :
    name? (skipBlanks (gap ++ (word ++ tail))) = some (word, tail) := by
  obtain ⟨nonempty, areWord⟩ := isName
  have noBlank : ∀ c cs, word ++ tail = c :: cs → isBlank c = false := by
    intro c cs isText
    obtain ⟨first, rest, rfl⟩ := List.exists_cons_of_ne_nil nonempty
    obtain ⟨rfl, -⟩ := List.cons.inj isText
    exact isBlank_of_isWord (areWord first List.mem_cons_self)
  rw [skipBlanks_append areBlank noBlank]
  refine name?_append nonempty areWord ?_
  rintro c cs rfl
  exact isWord_of_isBlank (ends c rfl)

theorem collectionCall?_first (areBlank : gap ∈ blanks)
    (isName : word ∈ names) (ends : ∀ c ∈ tail.head?, isBlank c = true) :
    collectionCall? (gap ++ (word ++ tail)) = none := by
  have noPoint : after? ['.'] tail = none := by
    cases tail with
    | nil => rfl
    | cons c cs =>
        have notPoint : c ≠ '.' := by
          rintro rfl
          exact absurd (ends '.' rfl) (by decide)
        simp [after?, notPoint]
  simp only [collectionCall?, name?_first areBlank isName ends, bind,
    Option.bind_some, noPoint, Option.bind_none]

theorem startsWithAny_first (areBlank : gap ∈ blanks) (isName : word ∈ names)
    (ends : ∀ c ∈ tail.head?, isBlank c = true)
    (keywords : List (List Char)) :
    startsWithAny keywords (gap ++ (word ++ tail)) =
      keywords.any (isKeyword · word) := by
  have read := name?_first areBlank isName ends
  have isRun : (skipBlanks (gap ++ (word ++ tail))).takeWhile isWord =
      word := by
    unfold name? at read
    split at read
    · cases read
    · exact (Prod.mk.inj (Option.some.inj read)).1
  simp only [startsWithAny, isRun]

/-- The first word decides, when a blank ends it. -/
theorem classifyChars_first (areBlank : gap ∈ blanks) (isName : word ∈ names)
    (ends : ∀ c ∈ tail.head?, isBlank c = true) :
    classifyChars (gap ++ (word ++ tail)) =
      if relationalKeywords.any (isKeyword · word) then .relational
      else if keyValueKeywords.any (isKeyword · word) then .keyValue
      else .relational := by
  simp only [classifyChars, collectionCall?_first areBlank isName ends,
    Option.isSome_none, Bool.false_eq_true, if_false,
    startsWithAny_first areBlank isName ends]

/-- What is read as a selection is relational. -/
theorem classify_of_parse {query : String} {select : Select}
    (parsed : Select.parse query = .ok select) :
    classify query = .relational := by
  obtain ⟨source, clause, digits, isParts, _⟩ := Select.parse_eq_ok parsed
  obtain ⟨rest, isHead, _⟩ := Select.exists_rest isParts
  obtain ⟨heading, isHeading, isText⟩ := Select.exists_heading isHead
  obtain ⟨lead, areBlank, _, ⟨word, spells, _, ⟨first, isGap, more, _, rfl⟩,
    rfl⟩, rfl⟩ := isHeading
  have isName : word ∈ names := by
    refine ⟨?_, isWord_of_mem_spells (List.all_eq_true.mp rfl) spells⟩
    rintro rfl
    cases spells
  have isSelect : relationalKeywords.any (isKeyword · word) = true :=
    List.any_eq_true.mpr
      ⟨"select".toList, List.mem_cons_self, isKeyword_iff.mpr spells⟩
  have ends : ∀ c ∈ (first ++ (more ++ rest)).head?, isBlank c = true :=
    head_of_gap isGap (more ++ rest)
  have decided := classifyChars_first areBlank isName ends
  rw [if_pos isSelect] at decided
  rw [classify, isText]
  simpa using decided

theorem isWord_before_bracket {cs rest : List Char}
    (isBracket : after? ['('] (skipBlanks cs) = some rest) :
    ∀ c ds, cs = c :: ds → isWord c = false := by
  rintro c ds rfl
  by_cases blank : isBlank c = true
  · exact isWord_of_isBlank blank
  · rw [Bool.not_eq_true] at blank
    rw [skipBlanks_cons blank] at isBracket
    obtain ⟨rfl, -⟩ := List.cons.inj (after?_eq_some isBracket)
    decide

/-- What a document store can read is a call on the collection that it
reads. -/
theorem collectionCall?_of_ofChars? {cs : List Char} {call : DocumentCall}
    (read : DocumentCall.ofChars? cs = some call) :
    ∃ rest, collectionCall? cs = some (call.collection.toList, rest) := by
  simp only [DocumentCall.ofChars?, Option.bind_eq_bind,
    Option.bind_eq_some_iff] at read
  obtain ⟨⟨database, behindDatabase⟩, isDatabase, behindPoint, isPoint,
    ⟨collection, behindCollection⟩, isCollection, behindFind, isFind,
    behindBracket, isBracket, _, _, isCall⟩ := read
  have isMethod : after? ['.'] behindCollection =
      some (['f', 'i', 'n', 'd'] ++ behindFind) := by
    rw [show behindCollection = _ from after?_eq_some isFind]
    rfl
  have method : name? (['f', 'i', 'n', 'd'] ++ behindFind) =
      some (['f', 'i', 'n', 'd'], behindFind) :=
    name?_append (by decide) (List.all_eq_true.mp rfl)
      (isWord_before_bracket isBracket)
  refine ⟨behindBracket, ?_⟩
  cases isCall
  simp only [collectionCall?, bind, isDatabase, Option.bind_some, isPoint,
    isCollection, isMethod, method, isBracket, pure, String.toList_ofList]

theorem classify_of_ofChars? {query : String} {call : DocumentCall}
    (read : DocumentCall.ofChars? query.toList = some call) :
    classify query = .document := by
  obtain ⟨rest, isCall⟩ := collectionCall?_of_ofChars? read
  simp [classify, classifyChars, isCall]

theorem subject?_of_ofChars? {query : String} {call : DocumentCall}
    (read : DocumentCall.ofChars? query.toList = some call) :
    subject? .document query = some call.collection := by
  obtain ⟨rest, isCall⟩ := collectionCall?_of_ofChars? read
  simp [subject?, subjectChars?, isCall]

end Query

end Polystore
