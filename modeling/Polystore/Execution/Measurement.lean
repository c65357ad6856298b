import Polystore.Execution.Metrics
import Polystore.Store.Basic

/-!
# Measurements

A store is asked with a limit on the time that it may take.  Faults and timeouts
become unsuccessful responses with the fault's wording, and only successful
responses have a cost.
-/

namespace Polystore

/-- A response with the cost of producing it. -/
structure Measurement where
  response : Response
  metrics : Metrics
  /-- The store could not be reached. -/
  unavailable : Bool
deriving Repr, Inhabited

namespace Measurement

def ofFault (fault : Fault) : Measurement :=
  ⟨.refused fault.message, .zero, fault.isUnavailability⟩

def ofResponse (metrics : Metrics) (response : Response) : Measurement :=
  ⟨response, if response.success then metrics else .zero, false⟩

/-- The measurement of a reply; there is none when the store's code has
crashed. -/
def ofReply? (metrics : Metrics) : Reply Response → Option Measurement
  | .answered response => some (.ofResponse metrics response)
  | .failed fault => some (.ofFault fault)
  | .crashed => none

end Measurement

/-- How stores are measured. -/
structure Recorder where
  latencyRatio : Float
  timeoutMs : Nat
deriving Repr

namespace Recorder

/-- The recorder when nothing else is said. -/
def standard : Recorder := ⟨0.3, 5000⟩

/-- Runs a query on a store; `meter` tells what the gauges show for a store. -/
def measure (recorder : Recorder) (meter : Store → Readings) (store : Store)
    (query : String) : Store × Option Measurement :=
  let (next, reply) := store.executeWithin recorder.timeoutMs query
  (next, Measurement.ofReply? (.ofReadings recorder.latencyRatio (meter store))
    reply)

end Recorder

end Polystore
