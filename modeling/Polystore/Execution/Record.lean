import Polystore.Execution.QueryResult
import Polystore.Query.Signature
import Polystore.RecordId

/-!
# Execution records

The entries of the execution log.  A record tells what was asked, what ran
where, and what came of it; it contributes one sample to the profile of its
signature and store.
-/

namespace Polystore

/-- How an execution came about. -/
inductive Origin where
  | routed
  | forced
  | comparison
deriving DecidableEq, Repr, Inhabited

def Origin.name : Origin → String
  | .routed => "routed"
  | .forced => "forced"
  | .comparison => "comparison"

def Origin.decode : Written → Option Origin :=
  Written.choice?
    ([.routed, .forced, .comparison].map fun origin =>
      (Origin.name origin, origin))

/-- What came of an execution. -/
structure Outcome where
  success : Bool
  error : Option String
  rowCount : Nat
deriving DecidableEq, Repr, Inhabited

namespace Outcome

def decode (tree : Written) : Option Outcome := do
  let members ← tree.members? ["success", "error", "row_count"]
  let success ← members.required "success" Written.flag?
  let error ← members.withDefault "error" none (Written.optional? Written.text?)
  let rowCount ← members.withDefault "row_count" 0 Written.natural?
  return ⟨success, error, rowCount⟩

/-- An outcome as a document value; the error only where there is one. -/
def json (outcome : Outcome) : Json :=
  .record <| [
    ("success", .bool outcome.success),
    ("row_count", .integer outcome.rowCount)]
      ++ (outcome.error.map fun error => ("error", Json.string error)).toList

end Outcome

/-- An entry of the execution log. -/
structure ExecutionRecord where
  id : RecordId
  signature : Signature
  /-- The text that the caller submitted. -/
  queryText : String
  /-- The text that the store ran. -/
  executedQuery : String
  store : String
  dialect : Dialect
  origin : Origin
  metrics : Metrics
  outcome : Outcome
  timestamp : Instant
deriving DecidableEq, Repr

namespace ExecutionRecord

def ofResult (id : RecordId) (now : Instant) (queryText : String)
    (origin : Origin) (result : QueryResult) : ExecutionRecord where
  id
  signature := .ofQuery queryText
  queryText
  executedQuery := result.executedQuery
  store := result.store
  dialect := result.dialect
  origin
  metrics := result.metrics
  outcome := ⟨result.success, result.error, result.rowCount⟩
  timestamp := now

/-- The sample that a record contributes to the profile of its signature and
store. -/
def sample (record : ExecutionRecord) : Sample :=
  record.metrics.sample record.outcome.success record.timestamp

def decode (tree : Written) : Option ExecutionRecord := do
  let members ← tree.members?
    ["id", "signature", "query_text", "executed_query", "store", "dialect",
      "origin", "metrics", "outcome", "timestamp"]
  let id ← members.required "id" RecordId.decode
  let signature ← members.required "signature" Written.text?
  let queryText ← members.required "query_text" Written.text?
  let executedQuery ← members.required "executed_query" Written.text?
  let store ← members.required "store" Written.text?
  let dialect ← members.required "dialect" Dialect.decode
  let origin ← members.required "origin" Origin.decode
  let metrics ← members.withDefault "metrics" .zero Metrics.decode
  let outcome ← members.required "outcome" Outcome.decode
  let timestamp ← members.required "timestamp" Instant.decode
  return ⟨id, ⟨signature⟩, queryText, executedQuery, store, dialect, origin,
    metrics, outcome, timestamp⟩

/-- The record that a document text denotes. -/
def ofText? (text : String) : Option ExecutionRecord :=
  (Written.ofText? text).bind decode

def json (record : ExecutionRecord) : Json :=
  .record [
    ("id", .string record.id.text),
    ("signature", .string record.signature.text),
    ("query_text", .string record.queryText),
    ("executed_query", .string record.executedQuery),
    ("store", .string record.store),
    ("dialect", .string record.dialect.name),
    ("origin", .string record.origin.name),
    ("metrics", record.metrics.json),
    ("outcome", record.outcome.json),
    ("timestamp", record.timestamp.json)]

def text (record : ExecutionRecord) : String :=
  record.json.text

end ExecutionRecord

end Polystore
