import Polystore.Query.DocumentCall
import Polystore.Json.Reader
import Polystore.Store.Response

/-!
# Tables and collections

Named lists of rows.  A relational store answers selections from its tables, and
a document store answers calls from its collections; both keep the order of the
rows and stop at the limit.
-/

namespace Polystore

/-- Rows by the name of the table or collection that holds them. -/
abbrev Tables := Keyed (List Row)

namespace Tables

/-- A table of the values that are objects; other values are no rows. -/
def rowsOf (values : List Json) : List Row :=
  values.filterMap Json.fields?

/-- The rows up to a limit, as values. -/
def limited (limit : Option Nat) (rows : List Row) : List Json :=
  (match limit with
    | none => rows
    | some limit => rows.take limit).map .object

/-- The table is there and has rows. -/
def holds (tables : Tables) (name : String) : Bool :=
  match tables.get? name with
  | none => false
  | some rows => !rows.isEmpty

/-- The answer of the relational store `store` to a statement. -/
def select (tables : Tables) (store query : String) : Response :=
  match Select.parse query with
  | .error _ => .refused s!"syntax error: statement not supported by {store}"
  | .ok select =>
    match tables.get? select.source with
    | none => .refused ("relation \"" ++ select.source ++ "\" does not exist")
    | some rows => .rows (limited select.limit (rows.filter select.holds))

/-- The filter of a call; a call without text has the filter that everything
passes. -/
def filterOf (text : List Char) : Except String Json :=
  if text.isEmpty then .ok (.object [])
  else
    match Json.read (String.ofList text) with
    | .ok filter => .ok filter
    | .error fault => .error (fault.message text)

/-- The answer of a document store to a call. -/
def find (collections : Tables) (query : String) : Response :=
  match DocumentCall.ofChars? query.toList with
  | none =>
    .refused "invalid query format, expected db.<collection>.find(\x7b...\x7d)"
  | some call =>
    match filterOf call.filter with
    | .error message => .refused ("invalid filter: " ++ message)
    | .ok filter =>
      match DocumentFilter.conditions? filter with
      | none => .refused "unsupported filter operator"
      | some conditions =>
        let limit :=
          call.limit.bind fun digits => (Numeral.unsigned? digits).toOption
        let documents := (collections.get? call.collection).getD []
        .rows (limited limit (documents.filter (Condition.allHold conditions)))

end Tables

end Polystore
