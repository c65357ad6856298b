import Polystore.Proofs.Query.Recognition
import Polystore.Proofs.Text.Lowercase
import Polystore.Proofs.Text.Words

/-!
# What commands and calls are asked for

Stores are probed for the subject of a text before they run it.  A key-value
store cuts a command at its blanks, while its subject is searched for behind
a name; a document store reads a whole call, while dialect and subject are
settled at its opening bracket.  Whatever a store runs, it has been probed
for: the key of the command, and the collection of the call.
-/

namespace Polystore

open Text Grammar

namespace Entries

/-- The commands that a key-value store runs. -/
inductive Command where
  | get
  | hgetall
  | keys
  | set

namespace Command

/-- The word for a command in small letters. -/
def word : Command → List Char
  | .get => ['g', 'e', 't']
  | .hgetall => ['h', 'g', 'e', 't', 'a', 'l', 'l']
  | .keys => ['k', 'e', 'y', 's']
  | .set => ['s', 'e', 't']

/-- What a command does, given its key and the words behind the key. -/
def perform (command : Command) (entries : Entries) (key : String)
    (arguments : List (List Char)) : Entries × Response :=
  match command with
  | .get => (entries, entries.lookup key)
  | .hgetall => (entries, entries.object key)
  | .keys => (entries, entries.matching key)
  | .set => entries.set key arguments

/-- The spelling is the word for the command in any case. -/
def IsSpelled (command : Command) (spelling : List Char) : Prop :=
  equalsIgnoringAsciiCase spelling command.word = true

instance (command : Command) (spelling : List Char) :
    Decidable (command.IsSpelled spelling) :=
  inferInstanceAs (Decidable (_ = true))

variable {command : Command} {spelling : List Char}

theorem IsSpelled.map_toLower (spelled : command.IsSpelled spelling) :
    spelling.map Char.toLower = command.word := by
  have small : command.word.map Char.toLower = command.word := by
    cases command <;> rfl
  rw [IsSpelled, equalsIgnoringAsciiCase, beq_iff_eq, small] at spelled
  exact spelled

theorem IsSpelled.map_toUpper (spelled : command.IsSpelled spelling) :
    spelling.map Char.toUpper = command.word.map Char.toUpper := by
  rw [← spelled.map_toLower, List.map_map]
  exact List.map_congr_left fun c _ => (toUpper_toLower c).symm

theorem IsSpelled.of_map_toUpper
    (capitals : spelling.map Char.toUpper = command.word.map Char.toUpper) :
    command.IsSpelled spelling := by
  have same : Char.toLower ∘ Char.toUpper = Char.toLower :=
    funext toLower_toUpper
  have small := congrArg (List.map Char.toLower) capitals
  rw [List.map_map, List.map_map, same] at small
  rw [IsSpelled, equalsIgnoringAsciiCase, beq_iff_eq]
  exact small

/-- A command is a keyword of its own and no other one. -/
theorem IsSpelled.isKeyword_eq (spelled : command.IsSpelled spelling)
    (keyword : List Char) :
    isKeyword keyword spelling = (command.word == keyword) := by
  have plain : ∀ c ∈ spelling, c ≠ 'ſ' ∧ c ≠ '\u212a' := by
    have absent : 'ſ' ∉ command.word ∧ '\u212a' ∉ command.word := by
      cases command <;> decide
    rw [← spelled.map_toLower] at absent
    intro c member
    constructor
    · rintro rfl
      exact absent.1 (List.mem_map_of_mem (f := Char.toLower) member)
    · rintro rfl
      exact absent.2 (List.mem_map_of_mem (f := Char.toLower) member)
  rw [Bool.eq_iff_iff, isKeyword_iff, spells_iff_map_toLower plain,
    spelled.map_toLower, beq_iff_eq]

theorem IsSpelled.isName (spelled : command.IsSpelled spelling) :
    spelling ∈ names := by
  have areWord : ∀ letter ∈ command.word, isWord letter = true := by
    cases command <;> exact List.all_eq_true.mp rfl
  have spells : Spells command.word spelling := by
    rw [← isKeyword_iff, spelled.isKeyword_eq, beq_self_eq_true]
  refine ⟨?_, isWord_of_mem_spells areWord spells⟩
  rintro rfl
  cases command <;> cases spells

/-- A store runs the command with the second word as its key. -/
theorem IsSpelled.run_eq (spelled : command.IsSpelled spelling)
    {query : String} {key : List Char} {arguments : List (List Char)}
    (split : words query.toList = spelling :: key :: arguments)
    (entries : Entries) (store : String) :
    entries.run store query =
      command.perform entries (String.ofList key) arguments := by
  have capitals := spelled.map_toUpper
  cases command <;> simp [run, split, capitals, perform, word]

end Command

end Entries

namespace Query

theorem argument?_of_words {cs name key : List Char}
    {rest : List (List Char)} (isName : name ∈ names)
    (split : words cs = name :: key :: rest) : argument? cs = some key := by
  obtain ⟨lead, tail, rfl, areBlank, -, -, ends, behind⟩ := words_eq_cons split
  obtain ⟨gap, last, rfl, areGap, nonempty, plain, endsKey, -⟩ :=
    words_eq_cons behind
  obtain ⟨c, key, rfl⟩ := List.exists_cons_of_ne_nil nonempty
  have noBlank : isBlank c = false := plain c List.mem_cons_self
  have isGap : gap ∈ gaps := by
    refine ⟨?_, areGap⟩
    rintro rfl
    rw [ends c rfl] at noBlank
    cases noBlank
  have behindGap : afterBlanks? (gap ++ (c :: key ++ last)) =
      some (c :: key ++ last) := by
    apply afterBlanks?_append isGap
    rintro d ds ⟨⟩
    exact noBlank
  have taken : (c :: key ++ last).takeWhile (fun d => !isBlank d) =
      c :: key := by
    refine (takeWhile_dropWhile_append ?_ ?_).1
    · intro d member
      rw [plain d member, Bool.not_false]
    · rintro d ds rfl
      rw [endsKey d rfl, Bool.not_true]
  simp only [argument?, name?_first areBlank isName ends, bind,
    Option.bind_some, behindGap, taken]

theorem classify_of_isSpelled {query : String} {command : Entries.Command}
    {spelling key : List Char} {arguments : List (List Char)}
    (split : words query.toList = spelling :: key :: arguments)
    (spelled : command.IsSpelled spelling) : classify query = .keyValue := by
  obtain ⟨lead, tail, isText, areBlank, -, -, ends, -⟩ := words_eq_cons split
  have asKeyword : ∀ keywords : List (List Char),
      keywords.any (isKeyword · spelling) =
        keywords.any (command.word == ·) := by
    intro keywords
    simp only [spelled.isKeyword_eq]
  rw [classify, isText, classifyChars_first areBlank spelled.isName ends,
    asKeyword, asKeyword]
  cases command <;> rfl

/-- A command of a key-value store, in whatever case and between whatever
blanks, is a key-value query, its subject is the second word, and this is the
key with which the store performs the command.  A text that a document store
can read as a call is a document query, its subject is the collection of the
call, and what the store finds depends on this collection alone. -/
theorem subject?_where_run (query : String) :
    (∀ (command : Entries.Command) (spelling key : List Char)
        (arguments : List (List Char)),
      words query.toList = spelling :: key :: arguments →
      command.IsSpelled spelling →
      classify query = .keyValue ∧
        subject? .keyValue query = some (String.ofList key) ∧
        ∀ (entries : Entries) (store : String),
          entries.run store query =
            command.perform entries (String.ofList key) arguments) ∧
    ∀ call, DocumentCall.ofChars? query.toList = some call →
      classify query = .document ∧
        subject? .document query = some call.collection ∧
        ∀ collections others : Tables,
          collections.get? call.collection = others.get? call.collection →
          collections.find query = others.find query := by
  constructor
  · intro command spelling key arguments split spelled
    refine ⟨classify_of_isSpelled split spelled, ?_,
      spelled.run_eq split⟩
    rw [subject?, subjectChars?, argument?_of_words spelled.isName split,
      Option.map_some]
  · intro call read
    refine ⟨classify_of_ofChars? read, subject?_of_ofChars? read, ?_⟩
    intro collections others same
    simp only [Tables.find, read, same]

/-- Some of the blanks are not in ASCII, and neither are two letters of the
collection. -/
theorem subject?_where_run_oddly_spaced :
    let command := "\u2003hGetAll\t\u00a0user:1 all"
    let call := "db.größen.find\n( ) .limit(2) ;"
    (classify command = .keyValue ∧
      subject? .keyValue command = some "user:1" ∧
      ∀ (entries : Entries) (store : String),
        entries.run store command = (entries, entries.object "user:1")) ∧
    classify call = .document ∧
      subject? .document call = some "größen" ∧
      ∀ collections others : Tables,
        collections.get? "größen" = others.get? "größen" →
        collections.find call = others.find call := by
  intro command call
  have split : words command.toList =
      ["hGetAll".toList, "user:1".toList, "all".toList] := by
    decide +kernel
  have spelled : Entries.Command.hgetall.IsSpelled "hGetAll".toList := by
    decide +kernel
  have read : DocumentCall.ofChars? call.toList =
      some ⟨"größen", [], some ['2']⟩ := by
    decide +kernel
  have asCommand := (subject?_where_run command).1 _ _ _ _ split spelled
  have asCall := (subject?_where_run call).2 _ read
  rw [String.ofList_toList] at asCommand
  exact ⟨asCommand, asCall⟩

end Query

end Polystore
