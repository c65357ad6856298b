import Polystore.Execution.Record
import Polystore.Learning.Profile

/-!
# Statistics

Counts and execution times of a set of records, over all of them and for each
store.  Times are those of the successful records.
-/

namespace Polystore

/-- Figures of a set of records. -/
structure Figures where
  count : Nat
  successes : Nat
  successRate : Float
  averageTime : Float
  leastTime : Float
  greatestTime : Float
deriving Repr, Inhabited

namespace Figures

def ofRecords (records : List ExecutionRecord) : Figures :=
  let succeeded := records.filter (·.outcome.success)
  let times := Aggregate.ofValues (succeeded.map (·.metrics.executionTime))
  { count := records.length
    successes := succeeded.length
    successRate := Summary.rate succeeded.length records.length
    averageTime := times.mean
    leastTime := times.least
    greatestTime := times.greatest }

/-- Figures as a document value, their numbers written by `number`. -/
def jsonWith (number : Float → Json) (figures : Figures) : Json :=
  .record [
    ("count", .integer figures.count),
    ("successes", .integer figures.successes),
    ("success_rate", number figures.successRate),
    ("avg_execution_time_ms", number figures.averageTime),
    ("min_execution_time_ms", number figures.leastTime),
    ("max_execution_time_ms", number figures.greatestTime)]

end Figures

/-- Figures of a set of records and of its part of each store. -/
structure Statistics where
  overall : Figures
  perStore : Keyed Figures
deriving Repr, Inhabited

namespace Statistics

/-- The names of the stores that occur, in ascending order. -/
def storesOf (records : List ExecutionRecord) : List String :=
  (Keyed.ofList (records.map fun record => (record.store, ()))).keys

def ofRecords (records : List ExecutionRecord) : Statistics where
  overall := .ofRecords records
  perStore := (storesOf records).map fun store =>
    (store, .ofRecords (records.filter fun record => record.store == store))

/-- Statistics as a document value, their numbers written by `number`. -/
def jsonWith (number : Float → Json) (statistics : Statistics) : Json :=
  .record [
    ("overall", statistics.overall.jsonWith number),
    ("per_store", .object
      (statistics.perStore.mapValues (Figures.jsonWith number)))]

end Statistics

end Polystore
