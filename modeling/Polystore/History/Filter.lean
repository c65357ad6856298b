import Polystore.Execution.Record
import Polystore.Text.Blank

/-!
# Filters of records

Which records a reader of the history wants to see.  Everything that a filter
sets has to hold; the limit concerns the number of records and not a single one.
-/

namespace Polystore

/-- Which records are wanted. -/
structure RecordFilter where
  /-- A text that occurs in the caller's text when both are in lower case. -/
  contains : Option String := none
  store : Option String := none
  /-- The earliest instant. -/
  since : Option Instant := none
  limit : Option Nat := none
deriving DecidableEq, Repr, Inhabited

namespace RecordFilter

/-- The filter that every record passes. -/
def all : RecordFilter := {}

/-- The needle occurs in the text, case ignored. -/
def occurs (needle text : String) : Bool :=
  Text.occursIn (Text.lower needle.toList) (Text.lower text.toList)

def accepts (filter : RecordFilter) (record : ExecutionRecord) : Bool :=
  (filter.store.all fun store => record.store == store)
    && (filter.since.all fun since => !record.timestamp.lt since)
    && (filter.contains.all fun needle => occurs needle record.queryText)

def decode (tree : Written) : Option RecordFilter := do
  let text? := Written.optional? Written.text?
  let members ← tree.allMembers? ["contains", "store", "since", "limit"]
  let contains ← members.withDefault "contains" none text?
  let store ← members.withDefault "store" none text?
  let since ←
    members.withDefault "since" none (Written.optional? Instant.decode)
  let limit ←
    members.withDefault "limit" none (Written.optional? Written.natural?)
  return { contains, store, since, limit }

end RecordFilter

end Polystore
