import Polystore.Execution.Record
import Polystore.Fault

/-!
# The execution log on disk

The log keeps one row for each record, in the order in which records were
appended.  A row has a unique identifier and the document text of its record, so
that rows of other versions can be read.  Appending and cutting back happen as
one step: either all records of a batch are in the log or none.
-/

namespace Polystore

structure LogRow where
  id : String
  payload : String
deriving DecidableEq, Repr, Inhabited

def LogRow.ofRecord (record : ExecutionRecord) : LogRow :=
  ⟨record.id.text, record.text⟩

/-- The file of the log. -/
inductive LogFile where
  | absent
  /-- A log with its rows, oldest first. -/
  | table (rows : List LogRow)
  /-- A database without the table of the log. -/
  | noTable
  /-- A file that is no database, or no place for one. -/
  | unusable
deriving DecidableEq, Repr, Inhabited

namespace LogFile

/-- The fault of a log that has no table to work on. -/
def missingTable : Fault := .log "no such table: executions"

/-- The fault of a file that is no database. -/
def notDatabase : Fault := .log "file is not a database"

/-- The fault of a row whose identifier is taken. -/
def takenId : Fault := .log "UNIQUE constraint failed: executions.id"

/-- The rows of a log that is open. -/
def rows : LogFile → Except Fault (List LogRow)
  | .table rows => .ok rows
  | .unusable => .error notDatabase
  | _ => .error missingTable

/-- The log, created where there is none. -/
def opened : LogFile → Except Fault LogFile
  | .table rows => .ok (.table rows)
  | .unusable => .error notDatabase
  | _ => .ok (.table [])

/-- The rows with one more behind them, provided that its identifier is free. -/
def insertRow (rows : List LogRow) (row : LogRow) :
    Except Fault (List LogRow) :=
  if rows.any fun other => other.id == row.id then .error takenId
  else .ok (rows ++ [row])

/-- The log with a batch of records appended and cut back to the last `keep`
rows. -/
def append (log : LogFile) (records : List ExecutionRecord) (keep : Nat) :
    Except Fault LogFile := do
  let rows ← (records.map LogRow.ofRecord).foldlM insertRow (← log.rows)
  return .table (rows.drop (rows.length - keep))

/-- The log cut back to the last `keep` rows, and the number of rows that were
dropped. -/
def truncate (log : LogFile) (keep : Nat) : Except Fault (LogFile × Nat) := do
  let rows ← log.rows
  let dropped := rows.length - keep
  return (.table (rows.drop dropped), dropped)

/-- The records of the last `limit` rows, oldest first, without those that
cannot be read. -/
def load (log : LogFile) (limit : Nat) :
    Except Fault (List ExecutionRecord) := do
  let rows ← log.rows
  return (rows.drop (rows.length - limit)).filterMap fun row =>
    ExecutionRecord.ofText? row.payload

def clear (log : LogFile) : Except Fault LogFile := do
  let _ ← log.rows
  return .table []

def count (log : LogFile) : Except Fault Nat := do
  return (← log.rows).length

end LogFile

end Polystore
