import Polystore.Execution.Measurement

/-!
# Results

What one store returned for one query, with its cost and the text that it ran.
-/

namespace Polystore

structure QueryResult where
  store : String
  success : Bool
  data : List Json
  rowCount : Nat
  error : Option String
  metrics : Metrics
  executedQuery : String
  dialect : Dialect
  /-- The executed text, when it is not the caller's text. -/
  convertedQuery : Option String
  unavailable : Bool
deriving Repr, Inhabited

namespace QueryResult

def ofMeasurement (store executedQuery : String) (dialect : Dialect)
    (converted : Bool) (measurement : Measurement) : QueryResult where
  store
  success := measurement.response.success
  data := measurement.response.data
  rowCount := measurement.response.data.length
  error := measurement.response.error
  metrics := measurement.metrics
  executedQuery
  dialect
  convertedQuery := if converted then some executedQuery else none
  unavailable := measurement.unavailable

/-- The fields of a result in a document; the converted text only where there is
one. -/
def fields (result : QueryResult) : List (String × Json) := [
  ("store", .string result.store),
  ("success", .bool result.success),
  ("data", .array result.data),
  ("row_count", .integer result.rowCount),
  ("error", .ofOption .string result.error),
  ("metrics", result.metrics.json),
  ("executed_query", .string result.executedQuery),
  ("dialect", .string result.dialect.name),
  ("unavailable", .bool result.unavailable)]
    ++ (result.convertedQuery.map fun query =>
      ("converted_query", Json.string query)).toList

def json (result : QueryResult) : Json :=
  .record result.fields

end QueryResult

end Polystore
