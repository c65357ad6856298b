import Polystore.Proofs.Query.Acceptance
import Polystore.Proofs.Query.DocumentForm
import Polystore.Query.Subject

/-!
# What a selection addresses

Stores are asked for the table that a statement addresses before they run it,
and the table is searched for without regard to the grammar of selections.  A
selection names its source behind the first keyword at which the search stops,
so the source is what is found, unless it begins with a character that the
search does not take for the beginning of a table.  Then the search goes on
behind the source.  The document form of a selection always addresses its
source.
-/

namespace Polystore

open Text Grammar

namespace Query

/-- A keyword in front of a table may begin with the character. -/
def startsKeyword (c : Char) : Bool :=
  foldsTo 'f' c || foldsTo 'i' c || foldsTo 'u' c

theorem tableAtHead?_eq_none {c : Char} (plain : startsKeyword c = false)
    (cs : List Char) : tableAtHead? (c :: cs) = none := by
  simp only [startsKeyword, Bool.or_eq_false_iff] at plain
  simp [tableAtHead?, subjectKeywords, afterKeyword?, plain]

theorem not_startsKeyword_of_isBlank {c : Char} (blank : isBlank c = true) :
    startsKeyword c = false := by
  have noFold : ∀ letter, isBlank letter = false → foldsTo letter c = false := by
    intro letter noBlank
    by_contra folds
    rw [isBlank_of_foldsTo (by simpa using folds) noBlank] at blank
    cases blank
  simp [startsKeyword, noFold 'f' rfl, noFold 'i' rfl, noFold 'u' rfl]

theorem not_startsKeyword_of_mem_select {word : List Char} {c : Char}
    (spells : Spells ['s', 'e', 'l', 'e', 'c', 't'] word) (member : c ∈ word) :
    startsKeyword c = false := by
  by_contra starts
  rw [Bool.not_eq_false] at starts
  have lower : c.toLower = 'f' ∨ c.toLower = 'i' ∨ c.toLower = 'u' := by
    simpa [startsKeyword, foldsTo, or_assoc] using starts
  have notLong : c ≠ 'ſ' := by
    rintro rfl
    revert lower
    decide
  refine not_mem_of_spells spells ?_ member
  rcases lower with same | same | same <;> simp [foldsTo, same, notLong]

/-- The search goes past a text in which no keyword begins. -/
theorem table?_append {front : List Char}
    (plain : ∀ c ∈ front, startsKeyword c = false) (insideWord : Bool)
    (cs : List Char) :
    table? insideWord (front ++ cs) =
      table? ((front.getLast?.map isWord).getD insideWord) cs := by
  induction front generalizing insideWord with
  | nil => rfl
  | cons c front induction =>
      obtain ⟨notStart, others⟩ := List.forall_mem_cons.mp plain
      have nothing : (if insideWord then none
          else tableAtHead? (c :: (front ++ cs))) = none := by
        rw [tableAtHead?_eq_none notStart, ite_self]
      rw [List.cons_append, table?]
      simp only [nothing]
      rw [induction others, List.getLast?_cons]
      cases front.getLast? <;> rfl

theorem startsTable_of_tableAtHead? {cs table : List Char}
    (found : tableAtHead? cs = some table) :
    ∃ c ∈ table.head?, startsTable c = true := by
  simp only [tableAtHead?, Option.bind_eq_bind, Option.bind_eq_some_iff]
    at found
  obtain ⟨_, _, _, _, named⟩ := found
  split at named
  · cases named
  · split at named
    · rename_i c _ _ starts
      cases named
      exact ⟨c, rfl, starts⟩
    · cases named

theorem startsTable_of_table? {insideWord : Bool} {cs table : List Char}
    (found : table? insideWord cs = some table) :
    ∃ c ∈ table.head?, startsTable c = true := by
  induction cs generalizing insideWord with
  | nil => cases found
  | cons c cs induction =>
      rw [table?] at found
      split at found
      · rename_i here
        cases found
        split at here
        · cases here
        · exact startsTable_of_tableAtHead? here
      · exact induction found

theorem afterBlanks?_append {gap rest : List Char} (isGap : gap ∈ gaps)
    (stops : ∀ c cs, rest = c :: cs → isBlank c = false) :
    afterBlanks? (gap ++ rest) = some rest := by
  obtain ⟨nonempty, areBlank⟩ := isGap
  obtain ⟨blank, gap, rfl⟩ := List.exists_cons_of_ne_nil nonempty
  obtain ⟨isBlank, others⟩ := List.forall_mem_cons.mp areBlank
  rw [List.cons_append, afterBlanks?, if_pos isBlank,
    skipBlanks_append others stops]

theorem skipTableQuote_of_isWord {c : Char} (word : isWord c = true)
    (cs : List Char) : skipTableQuote (c :: cs) = c :: cs := by
  unfold skipTableQuote
  split
  · rename_i same
    cases same
    exact absurd word (by decide)
  · rename_i same
    cases same
    exact absurd word (by decide)
  · rfl

theorem takeWhile_table {name rest : List Char}
    (areWord : ∀ c ∈ name, isWord c = true)
    (ends : ∀ c ∈ rest.head?, isBlank c = true ∨ c = ';') :
    (name ++ rest).takeWhile (fun c => isWord c || c == '.') = name := by
  refine (takeWhile_dropWhile_append ?_ ?_).1
  · intro c member
    rw [areWord c member, Bool.true_or]
  · rintro c cs rfl
    rcases ends c rfl with blank | rfl
    · have notPoint : c ≠ '.' := by
        rintro rfl
        exact absurd blank (by decide)
      simp [isWord_of_isBlank blank, notPoint]
    · decide

theorem tableAtHead?_from {word gap name rest : List Char} {c : Char}
    (spells : Spells ['f', 'r', 'o', 'm'] word) (isGap : gap ∈ gaps)
    (isName : c :: name ∈ names)
    (ends : ∀ d ∈ rest.head?, isBlank d = true ∨ d = ';') :
    tableAtHead? (word ++ (gap ++ c :: (name ++ rest))) =
      if startsTable c then some (c :: name) else none := by
  obtain ⟨isWordHead, areWord⟩ := List.forall_mem_cons.mp isName.2
  have isFrom : afterKeyword? "from".toList
      (word ++ (gap ++ c :: (name ++ rest))) =
        some (gap ++ c :: (name ++ rest)) :=
    afterKeyword?_eq_some_iff.mpr ⟨word, spells, rfl⟩
  have named : afterBlanks? (gap ++ c :: (name ++ rest)) =
      some (c :: (name ++ rest)) := by
    apply afterBlanks?_append isGap
    rintro d ds ⟨⟩
    exact isBlank_of_isWord isWordHead
  have unquoted := skipTableQuote_of_isWord isWordHead (name ++ rest)
  have taken := takeWhile_table areWord ends
  simp only [tableAtHead?, subjectKeywords, List.map_cons,
    List.findSome?_cons, isFrom, bind, Option.bind_some, named, unquoted,
    taken]

end Query

theorem Grammar.head_of_gap {gap : List Char} (isGap : gap ∈ gaps)
    (rest : List Char) : ∀ c ∈ (gap ++ rest).head?, isBlank c = true := by
  obtain ⟨nonempty, areBlank⟩ := isGap
  obtain ⟨blank, gap, rfl⟩ := List.exists_cons_of_ne_nil nonempty
  rintro c ⟨⟩
  exact areBlank blank List.mem_cons_self

theorem Outline.head_of_end {digits : Option (List Char)}
    {ending : List Char} (ends : ending ∈ limits digits * closings) :
    ∀ c ∈ ending.head?, isBlank c = true ∨ c = ';' := by
  obtain ⟨limit, isLimit, closing, isClosing, rfl⟩ := ends
  cases digits with
  | none =>
      cases (Language.mem_one limit).mp isLimit
      intro c isHead
      exact mem_closing isClosing c (List.mem_of_mem_head? isHead)
  | some digits =>
      obtain ⟨gap, isGap, rest, _, rfl⟩ := isLimit
      intro c isHead
      change c ∈ ((gap ++ rest) ++ closing).head? at isHead
      rw [List.append_assoc] at isHead
      exact .inl (head_of_gap isGap _ c isHead)

namespace Select

theorem exists_rest {cs source : List Char}
    {clause digits : Option (List Char)}
    (read : parts? cs = some (source, clause, digits)) :
    ∃ rest, head? cs = some (source, rest) ∧
      ∀ c ∈ rest.head?, isBlank c = true ∨ c = ';' := by
  simp only [parts?, Option.bind_eq_bind, Option.bind_eq_some_iff] at read
  obtain ⟨⟨name, rest⟩, isHead, isRest⟩ := read
  simp only at isRest
  split at isRest
  · rename_i isClause
    cases isRest
    obtain ⟨gap, isGap, _, _, _, _, _, _, rfl⟩ :=
      whereClause?_eq_some isClause
    exact ⟨_, isHead, fun c first => .inl (head_of_gap isGap _ c first)⟩
  · obtain ⟨digits, ends, same⟩ := Option.map_eq_some_iff.mp isRest
    cases same
    exact ⟨rest, isHead, Outline.head_of_end (ending?_eq_some ends).2⟩

end Select

namespace Query

/-- In front of `from` there is nothing that begins a keyword, and a blank
comes last. -/
theorem table?_heading {source heading rest : List Char}
    (isHeading : heading ∈ Outline.headings source) :
    ∃ word gap, Spells ['f', 'r', 'o', 'm'] word ∧ gap ∈ gaps ∧
      table? false (heading ++ rest) =
        table? false (word ++ (gap ++ (source ++ rest))) := by
  obtain ⟨lead, areLead, _, ⟨select, spells, _, ⟨first, isFirst, _, ⟨star,
    isStar, _, ⟨second, isSecond, _, ⟨word, isFrom, _, ⟨gap, isGap, name,
    isSource, rfl⟩, rfl⟩, rfl⟩, rfl⟩, rfl⟩, rfl⟩, rfl⟩ := isHeading
  obtain rfl : source = name := isSource.symm
  cases isStar
  refine ⟨word, gap, isFrom, isGap, ?_⟩
  have plain : ∀ c ∈ lead ++ (select ++ (first ++ (['*'] ++ second))),
      startsKeyword c = false := by
    intro c member
    simp only [List.mem_append, List.mem_singleton] at member
    rcases member with inLead | inSelect | inFirst | rfl | inSecond
    · exact not_startsKeyword_of_isBlank (areLead c inLead)
    · exact not_startsKeyword_of_mem_select spells inSelect
    · exact not_startsKeyword_of_isBlank (isFirst.2 c inFirst)
    · decide
    · exact not_startsKeyword_of_isBlank (isSecond.2 c inSecond)
  obtain ⟨nonempty, areBlank⟩ := isSecond
  obtain ⟨most, blank, rfl⟩ := (List.eq_nil_or_concat second).resolve_left
    nonempty
  have isLast : (lead ++ (select ++ (first ++ (['*'] ++
      most.concat blank)))).getLast? = some blank := by
    simp only [List.concat_eq_append, ← List.append_assoc,
      List.getLast?_concat]
  have lastIsBlank : isWord blank = false :=
    isWord_of_isBlank (areBlank blank (by simp))
  have passed := table?_append plain false (word ++ (gap ++ (source ++ rest)))
  rw [isLast, Option.map_some, Option.getD_some, lastIsBlank] at passed
  simpa using passed

/-- The table that is found for a selection is its source, unless the source
does not begin like a table. -/
theorem subjectChars?_of_parts? {cs source : List Char}
    {clause digits : Option (List Char)}
    (read : Select.parts? cs = some (source, clause, digits)) :
    subjectChars? .relational cs = some source ↔
      ∃ c ∈ source.head?, startsTable c = true := by
  constructor
  · intro found
    exact startsTable_of_table? found
  · rintro ⟨c, isFirst, starts⟩
    obtain ⟨name, rfl⟩ := List.head?_eq_some_iff.mp isFirst
    obtain ⟨rest, isHead, ends⟩ := Select.exists_rest read
    obtain ⟨heading, isHeading, rfl⟩ := Select.exists_heading isHead
    obtain ⟨word, gap, spells, isGap, passed⟩ := table?_heading isHeading
    have here := tableAtHead?_from spells isGap (Select.parts?_eq_some read)
      ends
    rw [if_pos starts] at here
    show table? false (heading ++ rest) = some (c :: name)
    rw [passed]
    cases spells with
    | @cons _ first _ word folds others =>
        change tableAtHead?
          (first :: (word ++ (gap ++ (c :: name ++ rest)))) = _ at here
        change table? false
          (first :: (word ++ (gap ++ (c :: name ++ rest)))) = _
        rw [table?]
        simp only [Bool.false_eq_true, if_false, here]

theorem subject?_render {collection : String} (filter : Json)
    (limit : Option Nat) (nonempty : collection.toList ≠ [])
    (areWord : ∀ c ∈ collection.toList, isWord c = true) :
    subject? .document (DocumentCall.render collection filter limit) =
      some collection := by
  generalize isRest : filter.chars ++ DocumentCall.endingOf limit = rest
  have name : name? (collection.toList ++
      (['.', 'f', 'i', 'n', 'd'] ++ '(' :: rest)) =
        some (collection.toList, ['.', 'f', 'i', 'n', 'd'] ++ '(' :: rest) :=
    DocumentCall.name?_collection nonempty areWord _
  have method : name? (['f', 'i', 'n', 'd'] ++ '(' :: rest) =
      some (['f', 'i', 'n', 'd'], '(' :: rest) := by
    refine name?_append (by decide) (List.all_eq_true.mp rfl) ?_
    rintro c cs ⟨⟩
    decide
  have first : ∀ cs, after? ['.'] ('.' :: cs) = some cs := fun _ => rfl
  have second : after? ['.'] (['.', 'f', 'i', 'n', 'd'] ++ '(' :: rest) =
      some (['f', 'i', 'n', 'd'] ++ '(' :: rest) := rfl
  have opening : after? ['('] (skipBlanks ('(' :: rest)) = some rest := rfl
  have call : collectionCall?
      (DocumentCall.render collection filter limit).toList =
        some (collection.toList, rest) := by
    rw [DocumentCall.toList_render, isRest, collectionCall?]
    simp only [bind, DocumentCall.name?_database, Option.bind_some, first,
      name, second, method, opening, pure]
  rw [subject?, subjectChars?, call]
  simp

/-- For every text that is read as a selection, what is addressed is the
source of the selection just when the source begins with an ASCII letter, an
underscore, the long s or the kelvin sign; sources that begin otherwise, with
a digit or another letter, are not found.  Its document form addresses the
source in any case. -/
theorem subject?_of_parse (query : String) (select : Select)
    (parsed : Select.parse query = .ok select) :
    (subject? .relational query = some select.source ↔
      ∃ c ∈ select.source.toList.head?, startsTable c = true) ∧
    (documentForm query ≠ query →
      subject? .document (documentForm query) = some select.source) := by
  constructor
  · obtain ⟨source, clause, digits, isParts, isSource, _, _⟩ :=
      Select.parse_eq_ok parsed
    have addressed := subjectChars?_of_parts? isParts
    rw [isSource, String.toList_ofList, ← addressed, subject?]
    constructor
    · intro found
      obtain ⟨chars, isFound, same⟩ := Option.map_eq_some_iff.mp found
      rw [isFound, String.ofList_inj.mp same]
    · intro found
      rw [found, Option.map_some]
  · intro changed
    obtain ⟨other, filter, isOther, _, form⟩ := documentForm_of_ne changed
    rw [parsed, Except.ok.injEq] at isOther
    subst isOther
    have isParsed := Select.parsed_of_parse parsed
    rw [form]
    exact subject?_render filter _ isParsed.nonempty isParsed.areWord

theorem subject?_of_parse_quoted_from :
    let query := "SELECT * FROM sales WHERE note = 'moved from archive'"
    Select.parse query =
        .ok ⟨"sales", [⟨"note", .equal, .text "moved from archive"⟩], none⟩ ∧
      subject? .relational query = some "sales" ∧
      documentForm query ≠ query ∧
      subject? .document (documentForm query) = some "sales" := by
  intro query
  have parsed : Select.parse query =
      .ok ⟨"sales", [⟨"note", .equal, .text "moved from archive"⟩], none⟩ := by
    decide +kernel
  have changed : documentForm query ≠ query := by decide +kernel
  obtain ⟨asTable, asCollection⟩ := subject?_of_parse query _ parsed
  exact ⟨parsed, asTable.mpr ⟨'s', by decide, by decide⟩, changed,
    asCollection changed⟩

/-- The search passes over a source that begins with a digit and ends within a
literal. -/
theorem subject?_behind_digit_source :
    let query := "SELECT * FROM 2024_sales WHERE note = 'moved from archive'"
    Select.parse query =
        .ok ⟨"2024_sales", [⟨"note", .equal, .text "moved from archive"⟩],
          none⟩ ∧
      subject? .relational query = some "archive" ∧
      subject? .document (documentForm query) = some "2024_sales" := by
  intro query
  refine ⟨?_, ?_, ?_⟩ <;> decide +kernel

end Query

end Polystore
