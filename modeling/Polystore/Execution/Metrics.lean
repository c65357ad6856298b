import Polystore.Learning.Sample

/-!
# Metrics

The cost of one execution.  Latency cannot be observed inside a store's code and
is estimated as a fixed part of the execution time.
-/

namespace Polystore

/-- The cost of one execution.  The change of memory may be negative. -/
structure Metrics where
  executionTime : Float
  latency : Float
  latencyEstimated : Bool
  cpuTime : Float
  memory : Float
deriving DecidableEq, Repr

/-- What the clocks and the memory gauge show about one execution. -/
structure Readings where
  elapsed : Float
  cpuTime : Float
  memory : Float
deriving Repr, Inhabited

namespace Metrics

/-- The metrics of an execution that has failed. -/
def zero : Metrics := ⟨0.0, 0.0, false, 0.0, 0.0⟩

instance : Inhabited Metrics := ⟨zero⟩

/-- The metrics of an execution that was observed, with the part of its time
that is latency. -/
def ofReadings (latencyRatio : Float) (readings : Readings) : Metrics :=
  ⟨readings.elapsed, readings.elapsed * latencyRatio, true, readings.cpuTime,
    readings.memory⟩

/-- The sample that an execution contributes. -/
def sample (metrics : Metrics) (success : Bool) (timestamp : Instant) :
    Sample :=
  ⟨metrics.executionTime, metrics.latency, metrics.cpuTime, metrics.memory,
    success, timestamp⟩

/-- Metrics in a document; what is missing is zero. -/
def decode (tree : Written) : Option Metrics := do
  let members ← tree.members?
    ["execution_time_ms", "latency_ms", "latency_estimated", "cpu_time_ms",
      "memory_used_bytes"]
  let executionTime ← members.withDefault "execution_time_ms" 0.0 Written.real?
  let latency ← members.withDefault "latency_ms" 0.0 Written.real?
  let latencyEstimated ←
    members.withDefault "latency_estimated" false Written.flag?
  let cpuTime ← members.withDefault "cpu_time_ms" 0.0 Written.real?
  let memory ← members.withDefault "memory_used_bytes" 0.0 Written.real?
  return ⟨executionTime, latency, latencyEstimated, cpuTime, memory⟩

def json (metrics : Metrics) : Json :=
  .record [
    ("execution_time_ms", .ofFloat metrics.executionTime),
    ("latency_ms", .ofFloat metrics.latency),
    ("latency_estimated", .bool metrics.latencyEstimated),
    ("cpu_time_ms", .ofFloat metrics.cpuTime),
    ("memory_used_bytes", .ofFloat metrics.memory)]

end Metrics

end Polystore
