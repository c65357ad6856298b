import Polystore.Proofs.Query.Recognition

/-!
# Document forms, all or nothing

A query either has a document form as a whole or is left as it is.  It has one
just when it is read as a selection whose conditions have a filter.  The form
is then a document query that reads back as the source, the printed filter and
the limit of the selection, so it differs from the query, which is relational,
and has no further form.
-/

namespace Polystore

namespace Query

variable {query : String} {select : Select} {filter : Json}

theorem documentForm_of_classify (other : classify query ≠ .relational) :
    documentForm query = query := by
  unfold documentForm
  cases isDialect : classify query with
  | relational => exact absurd isDialect other
  | document => rfl
  | keyValue => rfl

theorem documentForm_of_parse (parsed : Select.parse query = .ok select)
    (built : select.filter = .ok filter) :
    documentForm query =
      DocumentCall.render select.source filter select.limit := by
  have isRelational := classify_of_parse parsed
  simp only [documentForm, isRelational, parsed, bind, Except.bind,
    Select.documentQuery, built, Except.map]

theorem ofChars?_documentForm (parsed : Select.parse query = .ok select)
    (built : select.filter = .ok filter) :
    DocumentCall.ofChars? (documentForm query).toList =
      some ⟨select.source, filter.chars,
        select.limit.map Numeral.decimalText⟩ := by
  have isParsed := Select.parsed_of_parse parsed
  have form := documentForm_of_parse parsed built
  obtain ⟨fields, _, rfl⟩ := Select.filter_eq_ok built
  rw [form]
  exact DocumentCall.ofChars?_render select.limit isParsed.nonempty
    isParsed.areWord

theorem classify_documentForm (parsed : Select.parse query = .ok select)
    (built : select.filter = .ok filter) :
    classify (documentForm query) = .document :=
  classify_of_ofChars? (ofChars?_documentForm parsed built)

theorem documentForm_ne (parsed : Select.parse query = .ok select)
    (built : select.filter = .ok filter) : documentForm query ≠ query := by
  intro same
  have isDocument := classify_documentForm parsed built
  rw [same, classify_of_parse parsed] at isDocument
  cases isDocument

/-- A form has no further form, and neither has what is left as it is. -/
theorem documentForm_documentForm (query : String) :
    documentForm (documentForm query) = documentForm query := by
  by_cases same : documentForm query = query
  · rw [same, same]
  · obtain ⟨select, filter, parsed, built, _⟩ := documentForm_of_ne same
    apply documentForm_of_classify
    rw [classify_documentForm parsed built]
    decide

/-- For every query, the document form is another text just when the query is
read as a selection and the selection has a filter.  The query is then
relational, and its form is a document query that a document store reads as a
call on the source of the selection, with exactly the printed filter for its
filter and the limit of the selection for its limit.  Queries of other dialects
are left as they are, and the form of a form is the form. -/
theorem documentForm_all_or_nothing (query : String) :
    (documentForm query ≠ query ↔
      ∃ select filter, Select.parse query = .ok select ∧
        select.filter = .ok filter) ∧
    (∀ select filter, Select.parse query = .ok select →
      select.filter = .ok filter →
      let digits := select.limit.map Numeral.decimalText
      classify query = .relational ∧
      classify (documentForm query) = .document ∧
      DocumentCall.ofChars? (documentForm query).toList =
        some ⟨select.source, filter.chars, digits⟩ ∧
      digits.bind (fun digits => (Numeral.unsigned? digits).toOption) =
        select.limit) ∧
    (classify query ≠ .relational → documentForm query = query) ∧
    documentForm (documentForm query) = documentForm query := by
  refine ⟨⟨?_, ?_⟩, ?_, documentForm_of_classify,
    documentForm_documentForm query⟩
  · intro changed
    obtain ⟨select, filter, parsed, built, _⟩ := documentForm_of_ne changed
    exact ⟨select, filter, parsed, built⟩
  · rintro ⟨select, filter, parsed, built⟩
    exact documentForm_ne parsed built
  · intro select filter parsed built
    exact ⟨classify_of_parse parsed, classify_documentForm parsed built,
      ofChars?_documentForm parsed built,
      (Select.parsed_of_parse parsed).read_limit⟩

/-- The literal looks like the end of a call, with a limit of its own. -/
theorem documentForm_all_or_nothing_quotedLimit :
    let query := "SELECT * FROM t WHERE a = '\x7d).limit(1);' LIMIT 2"
    let filter : Json := .object [("a", .string "\x7d).limit(1);")]
    Select.parse query =
        .ok ⟨"t", [⟨"a", .equal, .text "\x7d).limit(1);"⟩], some 2⟩ ∧
      documentForm query ≠ query ∧
      classify (documentForm query) = .document ∧
      DocumentCall.ofChars? (documentForm query).toList =
        some ⟨"t", filter.chars, some ['2']⟩ ∧
      documentForm (documentForm query) = documentForm query := by
  intro query filter
  have parsed : Select.parse query =
      .ok ⟨"t", [⟨"a", .equal, .text "\x7d).limit(1);"⟩], some 2⟩ := by
    decide +kernel
  have built : (⟨"t", [⟨"a", .equal, .text "\x7d).limit(1);"⟩], some 2⟩ :
      Select).filter = .ok filter := rfl
  obtain ⟨changed, form, -, once⟩ := documentForm_all_or_nothing query
  obtain ⟨-, isDocument, isRead, -⟩ := form _ _ parsed built
  exact ⟨parsed, changed.mpr ⟨_, _, parsed, built⟩, isDocument, isRead, once⟩

end Query

end Polystore
