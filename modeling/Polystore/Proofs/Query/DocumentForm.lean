import Polystore.Proofs.Query.DocumentCall
import Polystore.Proofs.Query.Select
import Polystore.Store.Basic

/-!
# Document forms find the same rows

A selection and its document form are answered with the same rows by stores
that hold the same rows.  The document store reads back what was written: the
collection, the whole filter and the limit of the call, and then the
conditions of the filter.  These come in another order, in which the same rows
satisfy them.
-/

namespace Polystore

theorem Condition.allHold_perm {conditions others : List Condition}
    (perm : conditions.Perm others) :
    Condition.allHold conditions = Condition.allHold others := by
  funext row
  exact perm.all_eq

namespace Select

variable {select : Select} {filter : Json}

theorem filter_eq_ok (built : select.filter = .ok filter) :
    ∃ fields, DocumentFilter.ofConditions select.conditions = .ok fields ∧
      filter = .object fields := by
  unfold Select.filter at built
  cases isFields : DocumentFilter.ofConditions select.conditions with
  | error reason => simp [isFields, Except.map] at built
  | ok fields =>
      simp only [isFields, Except.map, Except.ok.injEq] at built
      exact ⟨fields, rfl, built.symm⟩

theorem Parsed.conditions? (parsed : select.Parsed)
    (built : select.filter = .ok filter) :
    ∃ conditions, DocumentFilter.conditions? filter = some conditions ∧
      conditions.Perm select.conditions := by
  obtain ⟨fields, isFields, rfl⟩ := filter_eq_ok built
  exact (DocumentFilter.states_ofConditions (fun _ exact => exact)
    parsed.exact isFields).conditions?

theorem Parsed.read_limit (parsed : select.Parsed) :
    (select.limit.map Numeral.decimalText).bind
      (fun digits => (Numeral.unsigned? digits).toOption) = select.limit := by
  cases isLimit : select.limit with
  | none => rfl
  | some limit =>
      have fits := parsed.limit limit isLimit
      simp only [Option.map_some, Option.bind_some,
        Numeral.unsigned?_decimalText fits]
      rfl

/-- Without floats among the literals the filter reads back. -/
theorem read_filter (built : select.filter = .ok filter)
    (discrete : ∀ condition ∈ select.conditions, condition.value.Discrete) :
    Json.read filter.text = .ok filter := by
  obtain ⟨fields, isFields, rfl⟩ := filter_eq_ok built
  have exact : ∀ literal : Literal, literal.Discrete → literal.Exact := by
    intro literal isDiscrete
    cases literal with
    | real value => exact absurd isDiscrete (by simp [Literal.Discrete])
    | text value => trivial
    | integer value => trivial
    | truth value => trivial
  exact (DocumentFilter.states_ofConditions exact discrete isFields).read_text

end Select

theorem Tables.find_render {select : Select} {filter : Json}
    (parsed : select.Parsed) (built : select.filter = .ok filter)
    (readsBack : Json.read filter.text = .ok filter) {collections : Tables}
    {rows : List Row} (held : collections.get? select.source = some rows) :
    collections.find
        (DocumentCall.render select.source filter select.limit) =
      .rows (Tables.limited select.limit (rows.filter select.holds)) := by
  obtain ⟨conditions, states, perm⟩ := parsed.conditions? built
  obtain ⟨fields, _, rfl⟩ := Select.filter_eq_ok built
  have call : DocumentCall.ofChars? (DocumentCall.render select.source
      (.object fields) select.limit).toList = _ :=
    DocumentCall.ofChars?_render select.limit parsed.nonempty parsed.areWord
  have isFilter : Tables.filterOf (Json.object fields).chars =
      .ok (.object fields) := by
    have nonempty : (Json.object fields).chars.isEmpty = false := rfl
    have read : Json.read (String.ofList (Json.object fields).chars) =
        .ok (.object fields) := readsBack
    simp only [Tables.filterOf, nonempty, Bool.false_eq_true, if_false, read]
  simp only [Tables.find, call, isFilter, states, parsed.read_limit, held,
    Option.getD_some, Condition.allHold_perm perm]
  rfl

namespace Query

theorem documentForm_of_ne {query : String}
    (changed : documentForm query ≠ query) :
    ∃ select filter, Select.parse query = .ok select ∧
      select.filter = .ok filter ∧
      documentForm query =
        DocumentCall.render select.source filter select.limit := by
  unfold documentForm at changed ⊢
  cases isDialect : classify query with
  | document => simp [isDialect] at changed
  | keyValue => simp [isDialect] at changed
  | relational =>
      cases parsed : Select.parse query with
      | error reason => simp [isDialect, parsed, bind, Except.bind] at changed
      | ok select =>
          cases built : select.filter with
          | error reason =>
              simp [isDialect, parsed, built, bind, Except.bind,
                Select.documentQuery, Except.map] at changed
          | ok filter =>
              refine ⟨select, filter, rfl, built, ?_⟩
              simp [bind, Except.bind, Select.documentQuery, built, Except.map]

/-- When a query has a document form, a relational store that holds rows as a
table answers the query with exactly the rows, in order and up to the limit,
with which a document store that holds them as a collection answers the form.
That a filter with floats reads back from its text is assumed. -/
theorem documentForm_same_rows (query : String)
    (changed : documentForm query ≠ query)
    (readsBack : ∀ select filter, Select.parse query = .ok select →
      select.filter = .ok filter →
      (∃ condition ∈ select.conditions, ∃ value,
        condition.value = .real value) →
      Json.read filter.text = .ok filter) :
    ∃ select, Select.parse query = .ok select ∧
      ∀ (relational document : Store) (tables collections : Tables)
        (rows : List Row),
        relational.offline = false → relational.backend = .relational tables →
        document.offline = false → document.backend = .document collections →
        tables.get? select.source = some rows →
        collections.get? select.source = some rows →
        let found := Response.rows
          (Tables.limited select.limit (rows.filter select.holds))
        (relational.execute query).2 = .answered found ∧
          (document.execute (documentForm query)).2 = .answered found := by
  obtain ⟨select, filter, parsed, built, form⟩ := documentForm_of_ne changed
  have filterReads : Json.read filter.text = .ok filter := by
    by_cases floats : ∃ condition ∈ select.conditions, ∃ value,
        condition.value = .real value
    · exact readsBack select filter parsed built floats
    · apply Select.read_filter built
      intro condition member
      cases isValue : condition.value with
      | real value => exact absurd ⟨condition, member, value, isValue⟩ floats
      | text value => trivial
      | integer value => trivial
      | truth value => trivial
  refine ⟨select, parsed, ?_⟩
  intro relational document tables collections rows relationalOnline isTables
    documentOnline isCollections inTable inCollection found
  have selected : tables.select relational.name query = found := by
    simp only [Tables.select, parsed, inTable, found]
  have called : collections.find (documentForm query) = found := by
    rw [form]
    exact Tables.find_render (Select.parsed_of_parse parsed) built filterReads
      inCollection
  constructor
  · simp only [Store.execute, relationalOnline, Bool.false_eq_true, if_false,
      Store.respond, isTables, selected]
  · simp only [Store.execute, documentOnline, Bool.false_eq_true, if_false,
      Store.respond, isCollections, called]

/-- A selection whose text looks like the end of a call and of a condition, and
whose float is written the way it is read. -/
def quotedEnds : String :=
  "SELECT * FROM t WHERE a != ') AND ' AND b < 0.5 LIMIT 2;"

/-- What `quotedEnds` asks of a row. -/
def quotedEndsFilter : Json :=
  .object [("a", .object [("$ne", .string ") AND ")]),
    ("b", .object [("$lt", .float 0.5)])]

theorem parse_quotedEnds :
    Select.parse quotedEnds = .ok
      ⟨"t", [⟨"a", .different, .text ") AND "⟩, ⟨"b", .less, .real 0.5⟩],
        some 2⟩ := by
  decide +kernel

theorem filter_quotedEnds {select : Select}
    (parsed : Select.parse quotedEnds = .ok select) :
    select.filter = .ok quotedEndsFilter := by
  have half : (0.5 : Float).isFinite = true := by decide +kernel
  have later : ("b" < "a") = False := eq_false (by decide +kernel)
  have other : ("b" == "a") = false := by decide +kernel
  rw [parse_quotedEnds, Except.ok.injEq] at parsed
  subst parsed
  simp [Select.filter, DocumentFilter.ofConditions, DocumentFilter.add,
    DocumentFilter.combine, Keyed.get?, Keyed.insert, List.lookup_cons,
    Comparator.operatorKey, Literal.json, Json.ofFloat, half, later, other,
    quotedEndsFilter, bind, Except.bind, pure, Except.pure, Except.map]

set_option maxRecDepth 20000 in
theorem read_quotedEndsFilter :
    Json.read quotedEndsFilter.text = .ok quotedEndsFilter := by
  rw [Json.read, Json.text, String.toList_ofList]
  rfl

theorem documentForm_same_rows_quotedEnds :
    documentForm quotedEnds ≠ quotedEnds ∧
      ∃ select, Select.parse quotedEnds = .ok select ∧
        ∀ (relational document : Store) (tables collections : Tables)
          (rows : List Row),
          relational.offline = false →
          relational.backend = .relational tables →
          document.offline = false → document.backend = .document collections →
          tables.get? select.source = some rows →
          collections.get? select.source = some rows →
          let found := Response.rows
            (Tables.limited select.limit (rows.filter select.holds))
          (relational.execute quotedEnds).2 = .answered found ∧
            (document.execute (documentForm quotedEnds)).2 =
              .answered found := by
  have changed : documentForm quotedEnds ≠ quotedEnds := by decide +kernel
  refine ⟨changed, documentForm_same_rows quotedEnds changed ?_⟩
  intro select filter parsed built _
  rw [filter_quotedEnds parsed, Except.ok.injEq] at built
  exact built ▸ read_quotedEndsFilter

end Query

end Polystore
