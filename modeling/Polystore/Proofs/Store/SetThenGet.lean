import Polystore.Proofs.Json.Spacing
import Polystore.Proofs.Query.Targets
import Polystore.Store.Basic

/-!
# Values that are set and looked up

The value of a command is put together from words, so runs of blanks within
its strings are collapsed before it is stored.
-/

namespace Polystore

open Text

namespace Entries

variable {key : String}

theorem words_command (name : List Char) (nameNonempty : name ≠ [])
    (namePlain : ∀ c ∈ name, isBlank c = false) (nonempty : key ≠ "")
    (plain : ∀ c ∈ key.toList, isBlank c = false) (argument : List Char)
    (ends : ∀ c ∈ argument.head?, isBlank c = true) :
    words (name ++ ' ' :: (key.toList ++ argument)) =
      name :: key.toList :: words argument := by
  have keyNonempty : key.toList ≠ [] := by
    simpa using nonempty
  have blank : isBlank ' ' = true := by decide
  have behind : ∀ c ∈ (' ' :: (key.toList ++ argument)).head?,
      isBlank c = true := by
    intro c isHead
    cases isHead
    exact blank
  rw [words_append nameNonempty namePlain behind, words_cons_of_isBlank blank,
    words_append keyNonempty plain ends]

theorem run_command {command : Command} {spelling : List Char}
    (spelled : command.IsSpelled spelling) (nonempty : key ≠ "")
    (plain : ∀ c ∈ key.toList, isBlank c = false) {argument : List Char}
    (ends : ∀ c ∈ argument.head?, isBlank c = true) {query : String}
    (isText : query.toList = spelling ++ ' ' :: (key.toList ++ argument))
    (entries : Entries) (store : String) :
    entries.run store query = command.perform entries key (words argument) := by
  obtain ⟨someLetter, areWord⟩ := spelled.isName
  have split := words_command spelling someLetter
    (fun c member => isBlank_of_isWord (areWord c member)) nonempty plain
    argument ends
  rw [← isText] at split
  rw [spelled.run_eq split, String.ofList_toList]

theorem run_get (entries : Entries) (store : String) (nonempty : key ≠ "")
    (plain : ∀ c ∈ key.toList, isBlank c = false) :
    entries.run store ("GET " ++ key) = (entries, entries.lookup key) := by
  have spelled : Command.get.IsSpelled ['G', 'E', 'T'] := rfl
  have isText : ("GET " ++ key).toList =
      ['G', 'E', 'T'] ++ ' ' :: (key.toList ++ []) := by
    simp
  exact run_command spelled nonempty plain (by simp) isText entries store

theorem run_set (entries : Entries) (store : String) (nonempty : key ≠ "")
    (plain : ∀ c ∈ key.toList, isBlank c = false) (argument : String) :
    entries.run store ("SET " ++ key ++ " " ++ argument) =
      entries.set key (words argument.toList) := by
  have spelled : Command.set.IsSpelled ['S', 'E', 'T'] := rfl
  have isText : ("SET " ++ key ++ " " ++ argument).toList =
      ['S', 'E', 'T'] ++ ' ' :: (key.toList ++ ' ' :: argument.toList) := by
    simp
  have blank : isBlank ' ' = true := by decide
  rw [run_command spelled nonempty plain (by simp [blank]) isText,
    words_cons_of_isBlank blank]
  rfl

/-- A value that reads back from its compact text is stored evened. -/
theorem set_text (entries : Entries) (key : String) {value : Json}
    (back : Json.read value.text = .ok value) :
    entries.set key (words value.text.toList) =
      (entries.insert key value.evened,
        .rows [.record [("value", .string "OK")]]) := by
  have isText : value.text.toList = value.chars := String.toList_ofList
  have some : (words value.chars).isEmpty = false := by
    obtain ⟨c, cs, begins, noBlank⟩ := (Json.unpadded_chars value).begins
    rw [List.isEmpty_eq_false_iff]
    apply words_ne_nil (c := c)
    · simp [begins]
    · exact noBlank
  have isValue : valueOf (String.ofList value.respelled.chars) =
      value.evened := by
    have read := Json.read_respelled_text back
    rw [Json.text] at read
    rw [valueOf, read]
  rw [set, isText, some, Json.unwords_words_chars, isValue]
  rfl

end Entries

namespace Store

theorem execute_of_keyValue {store : Store} {entries : Entries}
    (isKeyValue : store.backend = .keyValue entries)
    (online : store.offline = false) (query : String) :
    ∃ after : Store,
      store.execute query =
        (after, .answered (entries.run store.name query).2) ∧
      after.backend = .keyValue (entries.run store.name query).1 ∧
      after.offline = false := by
  obtain ⟨descriptor, backend, offline, delay, calls⟩ := store
  cases isKeyValue
  cases online
  exact ⟨_, rfl, rfl, rfl⟩

theorem execute_set_get {store : Store} {entries : Entries}
    (isKeyValue : store.backend = .keyValue entries)
    (online : store.offline = false) {key : String} (nonempty : key ≠ "")
    (plain : ∀ c ∈ key.toList, isBlank c = false) {value : Json}
    (back : Json.read value.text = .ok value) :
    (store.execute ("SET " ++ key ++ " " ++ value.text)).2 =
        .answered (.rows [.record [("value", .string "OK")]]) ∧
      ((store.execute ("SET " ++ key ++ " " ++ value.text)).1.execute
          ("GET " ++ key)).2 =
        .answered (.rows
          [.record [("key", .string key), ("value", value.evened)]]) := by
  obtain ⟨after, isSet, isEntries, staysOnline⟩ := execute_of_keyValue
    isKeyValue online ("SET " ++ key ++ " " ++ value.text)
  rw [Entries.run_set entries store.name nonempty plain,
    Entries.set_text entries key back] at isSet isEntries
  obtain ⟨last, isGet, -, -⟩ :=
    execute_of_keyValue isEntries staysOnline ("GET " ++ key)
  rw [Entries.run_get _ _ nonempty plain, Entries.lookup, Keyed.get?_insert,
    if_pos rfl] at isGet
  rw [isSet, isGet]
  constructor
  · rfl
  · rfl

/-- A key that was set to a value is looked up with the value evened: every run
of blanks that its strings and keys hold as they are has become a single space.
So it is the value itself if there are only single spaces, and only then. -/
theorem get_of_set {store : Store} {entries : Entries}
    (isKeyValue : store.backend = .keyValue entries)
    (online : store.offline = false) {key : String} (nonempty : key ≠ "")
    (plain : ∀ c ∈ key.toList, isBlank c = false) {value : Json}
    (back : Json.read value.text = .ok value) :
    (store.execute ("SET " ++ key ++ " " ++ value.text)).2 =
        .answered (.rows [.record [("value", .string "OK")]]) ∧
      ((store.execute ("SET " ++ key ++ " " ++ value.text)).1.execute
          ("GET " ++ key)).2 =
        .answered (.rows
          [.record [("key", .string key), ("value", value.evened)]]) ∧
      (value.evened = value ↔ value.EvenlySpaced) := by
  obtain ⟨isSet, isGet⟩ :=
    execute_set_get isKeyValue online nonempty plain back
  obtain ⟨-, sorted, -⟩ := Json.reads_of_read_text back
  exact ⟨isSet, isGet, Json.evened_eq_iff value sorted⟩

def freshKeyValue : Store :=
  .ofBackend (.single "redis" .keyValue) (.keyValue [])

theorem freshKeyValue_backend : freshKeyValue.backend = .keyValue [] :=
  rfl

theorem freshKeyValue_online : freshKeyValue.offline = false :=
  rfl

/-- A value with a tab, which is escaped, and single spaces. -/
def spacedValue : Json :=
  .object [("first name", .string "A\t B"), ("tags", .array [.integer 1, .null])]

theorem get_of_set_spaced :
    (freshKeyValue.execute ("SET " ++ "k" ++ " " ++ spacedValue.text)).2 =
        .answered (.rows [.record [("value", .string "OK")]]) ∧
      ((freshKeyValue.execute
          ("SET " ++ "k" ++ " " ++ spacedValue.text)).1.execute
            ("GET " ++ "k")).2 =
        .answered (.rows
          [.record [("key", .string "k"), ("value", spacedValue)]]) := by
  have nonempty : "k" ≠ "" := by
    decide
  have noBlank : ∀ c ∈ "k".toList, isBlank c = false :=
    isBlank_eq_false_of_any (by decide)
  have plain : spacedValue.Plain := by
    simp only [spacedValue, Json.Plain, Json.PlainFields, Json.PlainItems,
      Keyed.Ordered]
    decide
  have shallow : spacedValue.levels < 128 := by
    decide
  have back := Json.read_text plain shallow
  have even : spacedValue.EvenlySpaced := by
    simp only [spacedValue, Json.EvenlySpaced, Json.EvenlySpacedFields,
      Json.EvenlySpacedItems, ← collapse_false_eq_iff]
    decide
  obtain ⟨isSet, isGet, unchanged⟩ :=
    get_of_set freshKeyValue_backend freshKeyValue_online nonempty noBlank back
  rw [unchanged.mpr even] at isGet
  exact ⟨isSet, isGet⟩

/-- Two spaces in a string come back as one. -/
theorem get_of_set_two_spaces :
    let value := Json.string "a  b"
    Json.read value.text = .ok value ∧
      ((freshKeyValue.execute ("SET " ++ "k" ++ " " ++ value.text)).1.execute
          ("GET " ++ "k")).2 =
        .answered (.rows
          [.record [("key", .string "k"), ("value", .string "a b")]]) ∧
      Json.string "a b" ≠ value := by
  intro value
  have nonempty : "k" ≠ "" := by
    decide
  have noBlank : ∀ c ∈ "k".toList, isBlank c = false :=
    isBlank_eq_false_of_any (by decide)
  have plain : value.Plain := by
    simp only [value, Json.Plain]
  have shallow : value.levels < 128 := by
    decide
  have back : Json.read value.text = .ok value := Json.read_text plain shallow
  have isEvened : value.evened = .string "a b" := by
    have evens : Json.evenedText "a  b" = "a b" := by
      decide
    rw [Json.evened, evens]
  obtain ⟨-, isGet⟩ :=
    execute_set_get freshKeyValue_backend freshKeyValue_online nonempty noBlank
      back
  rw [isEvened] at isGet
  exact ⟨back, isGet, by simp [value]⟩

end Store

end Polystore
