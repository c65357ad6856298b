import Polystore.History.Log

/-!
# The text of the log

A log is written as one line for each of its rows.  A text with any other line
is no log.
-/

namespace Polystore

def LogRow.line (row : LogRow) : String :=
  (Json.record [("id", .string row.id), ("payload", .string row.payload)]).text

/-- The row of a line. -/
def LogRow.ofLine? (line : String) : Option LogRow := do
  let members ← (← Written.ofText? line).members? ["id", "payload"]
  let id ← members.required "id" Written.text?
  let payload ← members.required "payload" Written.text?
  return ⟨id, payload⟩

namespace LogFile

def text? : LogFile → Option String
  | .table rows => some (String.join (rows.map fun row => row.line ++ "\n"))
  | _ => none

def ofText (text : String) : LogFile :=
  let lines := (text.splitOn "\n").filter fun line => !line.isEmpty
  match lines.mapM LogRow.ofLine? with
  | some rows => .table rows
  | none => .unusable

end LogFile

end Polystore
