import Polystore.Proofs.Json.Rereading
import Polystore.Proofs.Text.Spacing

/-!
# Blanks in documents

The compact text of a value has no blanks but those within its strings, and
there the control characters are escaped.  Where runs of blanks are collapsed in
the text, what is read is the value with these runs collapsed in its strings
and keys.
-/

namespace Polystore

namespace Json

open Text Reading

/-- A blank that stands in a quoted string as it is. -/
def isOpenBlank (c : Char) : Bool :=
  isBlank c && !decide (c.toNat < 0x20)

/-- The text with one space for every run of open blanks. -/
def evenedText (text : String) : String :=
  String.ofList (collapse isOpenBlank false text.toList)

mutual

/-- The value with evened strings and keys, the fields in the order of the
evened keys. -/
def evened : Json → Json
  | .null => .null
  | .bool value => .bool value
  | .integer value => .integer value
  | .float value => .float value
  | .string value => .string (evenedText value)
  | .array items => .array (evenedItems items)
  | .object fields => .object (Keyed.ofList (evenedFields fields))

def evenedItems : List Json → List Json
  | [] => []
  | item :: items => evened item :: evenedItems items

/-- The fields of an object, evened and in their former order. -/
def evenedFields : List (String × Json) → List (String × Json)
  | [] => []
  | (key, value) :: fields =>
    (evenedText key, evened value) :: evenedFields fields

end

mutual

/-- The value with evened strings and keys, all fields in their former order. -/
def respelled : Json → Json
  | .null => .null
  | .bool value => .bool value
  | .integer value => .integer value
  | .float value => .float value
  | .string value => .string (evenedText value)
  | .array items => .array (respelledItems items)
  | .object fields => .object (respelledFields fields)

def respelledItems : List Json → List Json
  | [] => []
  | item :: items => respelled item :: respelledItems items

def respelledFields : List (String × Json) → List (String × Json)
  | [] => []
  | (key, value) :: fields =>
    (evenedText key, respelled value) :: respelledFields fields

end

/-- A value that is written without quotation marks and without parts. -/
def Unquoted : Json → Prop
  | .null | .bool _ | .integer _ | .float _ => True
  | .string _ | .array _ | .object _ => False

theorem isBlank_of_mem_chars {value : Json} (unquoted : value.Unquoted) :
    ∀ c ∈ value.chars, isBlank c = false := by
  cases value with
  | null => exact isBlank_eq_false_of_any rfl
  | bool truth =>
      cases truth with
      | false => exact isBlank_eq_false_of_any rfl
      | true => exact isBlank_eq_false_of_any rfl
  | integer n =>
      rw [chars_integer]
      exact isBlank_of_mem_signed _ (isMagnitude_decimalText n.natAbs)
  | float number =>
      by_cases finite : number.isFinite = true
      · rw [chars_float finite]
        exact isBlank_of_mem_signed _ (isMagnitude_text _)
      · rw [chars, if_neg finite]
        exact isBlank_eq_false_of_any rfl
  | string | array | object => exact absurd unquoted id

/-- Collapsing makes the one text of the other, whatever stands behind it. -/
def Collapses (text other : List Char) : Prop :=
  ∀ rest, collapse isBlank false (text ++ rest) =
    other ++ collapse isBlank false rest

theorem collapses_of_plain {text : List Char}
    (plain : ∀ c ∈ text, isBlank c = false) : Collapses text text := by
  intro rest
  cases text with
  | nil => rfl
  | cons c text => exact collapse_append (by simp) plain false rest

theorem Collapses.append {first firstOther second secondOther : List Char}
    (left : Collapses first firstOther) (right : Collapses second secondOther) :
    Collapses (first ++ second) (firstOther ++ secondOther) := by
  intro rest
  rw [List.append_assoc, left, right, List.append_assoc]

theorem Collapses.cons {text other : List Char} {c : Char}
    (noBlank : isBlank c = false) (collapses : Collapses text other) :
    Collapses (c :: text) (c :: other) := by
  intro rest
  rw [List.cons_append, collapse_cons_of_not noBlank, collapses]
  rfl

theorem collapses_commaSeparated {texts others : List (List Char)}
    (collapse : List.Forall₂ Collapses texts others) :
    Collapses (commaSeparated texts) (commaSeparated others) := by
  induction collapse with
  | nil => exact collapses_of_plain (by simp [commaSeparated])
  | @cons text other texts others first rest induction =>
      cases rest with
      | nil => exact first
      | cons => exact first.append (induction.cons (by decide))

theorem escaped_of_isOpenBlank {c : Char} (openBlank : isOpenBlank c = true) :
    escaped c = [c] := by
  rw [isOpenBlank, Bool.and_eq_true, Bool.not_eq_true',
    decide_eq_false_iff_not] at openBlank
  obtain ⟨blank, noControl⟩ := openBlank
  have unlike : ∀ d : Char, isBlank d = false ∨ d.toNat < 0x20 → c ≠ d := by
    rintro d unlike rfl
    rcases unlike with noBlank | control
    · rw [noBlank] at blank
      cases blank
    · exact noControl control
  have noMark := unlike '"' (by decide)
  have noEscape := unlike '\\' (by decide)
  have noBackspace := unlike '\x08' (by decide)
  have noTab := unlike '\t' (by decide)
  have noNewline := unlike '\n' (by decide)
  have noFormFeed := unlike '\x0c' (by decide)
  have noReturn := unlike '\r' (by decide)
  simp [escaped, noMark, noEscape, noBackspace, noTab, noNewline, noFormFeed,
    noReturn, noControl]

theorem isBlank_hexDigit : ∀ n < 16, isBlank (hexDigit n) = false := by
  decide

theorem escaped_of_not_isOpenBlank {c : Char}
    (notOpen : isOpenBlank c = false) :
    escaped c ≠ [] ∧ ∀ d ∈ escaped c, isBlank d = false := by
  by_cases control : c.toNat < 0x20
  · have high := isBlank_hexDigit (c.toNat / 16) (by omega)
    have low := isBlank_hexDigit (c.toNat % 16) (by omega)
    unfold escaped
    repeat' split
    all_goals simp [high, low]
    all_goals decide
  · have noBlank : isBlank c = false := by
      simpa [isOpenBlank, control] using notOpen
    unfold escaped
    repeat' split
    all_goals simp [noBlank]
    all_goals decide

theorem collapse_escaped (within : Bool) (cs rest : List Char) :
    collapse isBlank within (cs.flatMap escaped ++ '"' :: rest) =
      (collapse isOpenBlank within cs).flatMap escaped ++
        '"' :: collapse isBlank false rest := by
  induction cs generalizing within with
  | nil => exact collapse_cons_of_not (by decide) within rest
  | cons c cs induction =>
      cases openBlank : isOpenBlank c with
      | true =>
          have blank : isBlank c = true := by
            rw [isOpenBlank, Bool.and_eq_true] at openBlank
            exact openBlank.1
          rw [List.flatMap_cons, escaped_of_isOpenBlank openBlank]
          cases within with
          | true =>
              rw [collapse_true_cons openBlank, List.append_assoc,
                List.singleton_append, collapse_true_cons blank, induction]
          | false =>
              rw [collapse_false_cons openBlank, List.append_assoc,
                List.singleton_append, collapse_false_cons blank, induction]
              rfl
      | false =>
          obtain ⟨nonempty, plain⟩ := escaped_of_not_isOpenBlank openBlank
          rw [List.flatMap_cons, collapse_cons_of_not openBlank,
            List.append_assoc, collapse_append nonempty plain, induction,
            List.flatMap_cons, List.append_assoc]

theorem collapses_quoted (text : String) :
    Collapses (quoted text) (quoted (evenedText text)) := by
  intro rest
  rw [quoted_append, quoted_append, collapse_cons_of_not (by decide),
    collapse_escaped, evenedText, String.toList_ofList]

mutual

/-- The compact text is collapsed in its strings only. -/
theorem collapses_chars (value : Json) :
    Collapses value.chars value.respelled.chars := by
  cases value with
  | null | bool | integer | float =>
      exact collapses_of_plain (isBlank_of_mem_chars trivial)
  | string text =>
      rw [respelled, chars, chars]
      exact collapses_quoted text
  | array items =>
      rw [respelled, chars, chars]
      have inner := collapses_commaSeparated (collapses_itemChars items)
      have closing : Collapses [']'] [']'] :=
        collapses_of_plain (isBlank_eq_false_of_any rfl)
      exact (inner.append closing).cons (by decide)
  | object fields =>
      rw [respelled, chars, chars]
      have inner := collapses_commaSeparated (collapses_fieldChars fields)
      have closing : Collapses ['\x7d'] ['\x7d'] :=
        collapses_of_plain (isBlank_eq_false_of_any rfl)
      exact (inner.append closing).cons (by decide)

theorem collapses_itemChars (items : List Json) :
    List.Forall₂ Collapses (itemChars items)
      (itemChars (respelledItems items)) := by
  cases items with
  | nil => exact .nil
  | cons item items =>
      exact .cons (collapses_chars item) (collapses_itemChars items)

theorem collapses_fieldChars (fields : List (String × Json)) :
    List.Forall₂ Collapses (fieldChars fields)
      (fieldChars (respelledFields fields)) := by
  cases fields with
  | nil => exact .nil
  | cons field fields =>
      obtain ⟨key, value⟩ := field
      have noBlank : isBlank ':' = false := by decide
      have behind := (collapses_chars value).cons noBlank
      exact .cons ((collapses_quoted key).append behind)
        (collapses_fieldChars fields)

end

mutual

theorem reads_respelled (value : Json) (reads : Reads true value value.written) :
    Reads true value.respelled value.respelled.written := by
  cases value with
  | null | bool | integer | float => exact reads
  | string text => exact readsLeaf_string true (evenedText text)
  | array items =>
      simp only [Reads, written, Written.array.injEq] at reads
      obtain ⟨trees, rfl, readsItems⟩ := reads
      exact ⟨_, rfl, readsItems_respelled items readsItems⟩
  | object fields =>
      simp only [Reads, written, Written.object.injEq] at reads
      obtain ⟨trees, rfl, readsFields⟩ := reads
      exact ⟨_, rfl, readsFields_respelled fields readsFields⟩

theorem readsItems_respelled (items : List Json)
    (reads : ReadsItems true items (writtenItems items)) :
    ReadsItems true (respelledItems items)
      (writtenItems (respelledItems items)) := by
  cases items with
  | nil => exact rfl
  | cons item items =>
      simp only [ReadsItems, writtenItems, List.cons.injEq] at reads
      obtain ⟨head, tail, ⟨rfl, rfl⟩, readsHead, readsTail⟩ := reads
      exact ⟨_, _, rfl, reads_respelled item readsHead,
        readsItems_respelled items readsTail⟩

theorem readsFields_respelled (fields : List (String × Json))
    (reads : ReadsFields true fields (writtenFields fields)) :
    ReadsFields true (respelledFields fields)
      (writtenFields (respelledFields fields)) := by
  cases fields with
  | nil => exact rfl
  | cons field fields =>
      obtain ⟨key, value⟩ := field
      simp only [ReadsFields, writtenFields, List.cons.injEq, Prod.mk.injEq,
        true_and] at reads
      obtain ⟨head, tail, ⟨rfl, rfl⟩, readsHead, readsTail⟩ := reads
      exact ⟨_, _, rfl, reads_respelled value readsHead,
        readsFields_respelled fields readsTail⟩

end

mutual

theorem levels_respelled (value : Json) :
    value.respelled.levels = value.levels := by
  cases value with
  | null | bool | integer | float | string => rfl
  | array items =>
      rw [respelled, levels, levels, levelsOfItems_respelled items]
  | object fields =>
      rw [respelled, levels, levels, levelsOfFields_respelled fields]

theorem levelsOfItems_respelled (items : List Json) :
    levelsOfItems (respelledItems items) = levelsOfItems items := by
  cases items with
  | nil => rfl
  | cons item items =>
      rw [respelledItems, levelsOfItems, levelsOfItems, levels_respelled item,
        levelsOfItems_respelled items]

theorem levelsOfFields_respelled (fields : List (String × Json)) :
    levelsOfFields (respelledFields fields) = levelsOfFields fields := by
  cases fields with
  | nil => rfl
  | cons field fields =>
      obtain ⟨key, value⟩ := field
      rw [respelledFields, levelsOfFields, levelsOfFields,
        levels_respelled value, levelsOfFields_respelled fields]

end

mutual

/-- Putting the fields in order is all that is left to do. -/
theorem json_written_respelled (value : Json) :
    value.respelled.written.json = value.evened := by
  cases value with
  | null | bool | integer | float | string => rfl
  | array items =>
      rw [respelled, written, Written.json, evened,
        jsonItems_written_respelled items]
  | object fields =>
      rw [respelled, written, Written.json, evened,
        jsonFields_written_respelled fields]

theorem jsonItems_written_respelled (items : List Json) :
    Written.jsonItems (writtenItems (respelledItems items)) =
      evenedItems items := by
  cases items with
  | nil => rfl
  | cons item items =>
      rw [respelledItems, writtenItems, Written.jsonItems, evenedItems,
        json_written_respelled item, jsonItems_written_respelled items]

theorem jsonFields_written_respelled (fields : List (String × Json)) :
    Written.jsonFields (writtenFields (respelledFields fields)) =
      evenedFields fields := by
  cases fields with
  | nil => rfl
  | cons field fields =>
      obtain ⟨key, value⟩ := field
      rw [respelledFields, writtenFields, Written.jsonFields, evenedFields,
        json_written_respelled value, jsonFields_written_respelled fields,
        Option.getD_some]

end

/-- A value that reads back from its text is read evened where the text is
collapsed. -/
theorem read_respelled_text {value : Json}
    (back : Json.read value.text = .ok value) :
    Json.read value.respelled.text = .ok value.evened := by
  obtain ⟨reads, -, shallow⟩ := reads_of_read_text back
  have respelledShallow : value.respelled.levels < 128 := by
    rw [levels_respelled]
    exact shallow
  rw [read_text_of_reads (reads_respelled value reads) respelledShallow,
    json_written_respelled]

/-- A text that neither begins nor ends with a blank. -/
structure Unpadded (text : List Char) : Prop where
  begins : ∃ c cs, text = c :: cs ∧ isBlank c = false
  ends : ∀ c ∈ text.getLast?, isBlank c = false

theorem unpadded_of_plain {text : List Char} (nonempty : text ≠ [])
    (plain : ∀ c ∈ text, isBlank c = false) : Unpadded text := by
  constructor
  · obtain ⟨c, cs, rfl⟩ := List.exists_cons_of_ne_nil nonempty
    exact ⟨c, cs, rfl, plain c List.mem_cons_self⟩
  · exact fun c isLast => plain c (List.mem_of_getLast? isLast)

theorem unpadded_of_enclosed {first last : Char} (inner : List Char)
    (noBlankFirst : isBlank first = false)
    (noBlankLast : isBlank last = false) :
    Unpadded (first :: (inner ++ [last])) := by
  constructor
  · exact ⟨first, _, rfl, noBlankFirst⟩
  · intro c isLast
    rw [← List.cons_append, List.getLast?_concat] at isLast
    cases isLast
    exact noBlankLast

theorem unpadded_chars (value : Json) : Unpadded value.chars := by
  have nonempty : value.chars ≠ [] := by
    obtain ⟨c, cs, begins, -, -⟩ := chars_head value
    simp [begins]
  cases value with
  | null | bool | integer | float =>
      exact unpadded_of_plain nonempty (isBlank_of_mem_chars trivial)
  | string text =>
      rw [chars, quoted]
      exact unpadded_of_enclosed _ (by decide) (by decide)
  | array items =>
      rw [chars]
      exact unpadded_of_enclosed _ (by decide) (by decide)
  | object fields =>
      rw [chars]
      exact unpadded_of_enclosed _ (by decide) (by decide)

/-- A compact text is respelled where its words are put together again. -/
theorem unwords_words_chars (value : Json) :
    unwords (words value.chars) = value.respelled.chars := by
  obtain ⟨⟨c, cs, begins, noBlank⟩, ends⟩ := unpadded_chars value
  have collapsed := collapses_chars value []
  rw [List.append_nil, collapse, List.append_nil] at collapsed
  rw [unwords_words ends, ← collapsed, begins, collapse_cons_of_not noBlank,
    collapse_cons_of_not noBlank]

mutual

/-- All strings and keys of a value are singly spaced. -/
def EvenlySpaced : Json → Prop
  | .null => True
  | .bool _ => True
  | .integer _ => True
  | .float _ => True
  | .string value => SinglySpaced isOpenBlank value.toList
  | .array items => EvenlySpacedItems items
  | .object fields => EvenlySpacedFields fields

def EvenlySpacedItems : List Json → Prop
  | [] => True
  | item :: items => EvenlySpaced item ∧ EvenlySpacedItems items

/-- All keys of fields are singly spaced, and so is what their values hold. -/
def EvenlySpacedFields : List (String × Json) → Prop
  | [] => True
  | (key, value) :: fields =>
    (SinglySpaced isOpenBlank key.toList ∧ EvenlySpaced value) ∧
      EvenlySpacedFields fields

end

theorem evenedText_eq_iff {text : String} :
    evenedText text = text ↔ SinglySpaced isOpenBlank text.toList := by
  rw [← collapse_false_eq_iff, evenedText, ← String.toList_inj,
    String.toList_ofList]

theorem evenedText_evenedText (text : String) :
    evenedText (evenedText text) = evenedText text := by
  rw [evenedText, evenedText, String.toList_ofList,
    collapse_collapse (by decide)]

theorem keys_evenedFields (fields : List (String × Json)) :
    (evenedFields fields).map Prod.fst =
      fields.map fun field => evenedText field.1 := by
  induction fields with
  | nil => rfl
  | cons field fields induction =>
      obtain ⟨key, value⟩ := field
      rw [evenedFields, List.map_cons, List.map_cons, induction]

/-- Evening either changes no key of an object or changes the set of keys, since
evened keys stay as they are. -/
theorem ofList_evenedFields_eq_iff {fields : List (String × Json)}
    (ordered : Keyed.Ordered fields) :
    Keyed.ofList (evenedFields fields) = fields ↔
      evenedFields fields = fields := by
  constructor
  · intro same
    have unchanged : ∀ field ∈ fields, evenedText field.1 = field.1 := by
      intro field member
      rw [← same] at member
      have inEvened := List.mem_map_of_mem (f := Prod.fst)
        (Keyed.mem_of_mem_ofList member)
      rw [keys_evenedFields] at inEvened
      obtain ⟨former, -, isKey⟩ := List.mem_map.mp inEvened
      rw [← isKey]
      exact evenedText_evenedText former.1
    have sameKeys : (evenedFields fields).map Prod.fst =
        fields.map Prod.fst := by
      rw [keys_evenedFields]
      exact List.map_congr_left unchanged
    have ascends : ((evenedFields fields).map Prod.fst).Pairwise (· < ·) := by
      rw [sameKeys]
      exact List.pairwise_map.mpr ordered
    rwa [Keyed.ofList_of_ordered (List.pairwise_map.mp ascends)] at same
  · intro same
    rw [same, Keyed.ofList_of_ordered ordered]

mutual

/-- Evening changes nothing in a value that is evenly spaced, and in no
other. -/
theorem evened_eq_iff (value : Json) (sorted : value.Sorted) :
    value.evened = value ↔ value.EvenlySpaced := by
  cases value with
  | null | bool | integer | float => exact iff_of_true rfl trivial
  | string text =>
      rw [evened, Json.string.injEq]
      exact evenedText_eq_iff
  | array items =>
      rw [evened, Json.array.injEq]
      exact evenedItems_eq_iff items sorted
  | object fields =>
      rw [evened, Json.object.injEq, ofList_evenedFields_eq_iff sorted.1]
      exact evenedFields_eq_iff fields sorted.2

theorem evenedItems_eq_iff (items : List Json) (sorted : SortedItems items) :
    evenedItems items = items ↔ EvenlySpacedItems items := by
  cases items with
  | nil => exact iff_of_true rfl trivial
  | cons item items =>
      rw [evenedItems, List.cons.injEq, evened_eq_iff item sorted.1,
        evenedItems_eq_iff items sorted.2]
      exact Iff.rfl

theorem evenedFields_eq_iff (fields : List (String × Json))
    (sorted : SortedFields fields) :
    evenedFields fields = fields ↔ EvenlySpacedFields fields := by
  cases fields with
  | nil => exact iff_of_true rfl trivial
  | cons field fields =>
      obtain ⟨key, value⟩ := field
      rw [evenedFields, List.cons.injEq, Prod.mk.injEq, evenedText_eq_iff,
        evened_eq_iff value sorted.1, evenedFields_eq_iff fields sorted.2]
      exact Iff.rfl

end

end Json

end Polystore
