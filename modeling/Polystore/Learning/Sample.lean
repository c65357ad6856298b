import Polystore.Instant.Text

/-!
# Samples

What one execution tells about the cost of a query on a store.
-/

namespace Polystore

/-- One observation of an execution. -/
structure Sample where
  executionTime : Float
  latency : Float
  cpuTime : Float
  memory : Float
  success : Bool
  timestamp : Instant
deriving DecidableEq, Repr, Inhabited

namespace Sample

def decode (tree : Written) : Option Sample := do
  let members ← tree.members? ["execution_time_ms", "latency_ms", "cpu_time_ms",
    "memory_used_bytes", "success", "timestamp"]
  let executionTime ← members.required "execution_time_ms" Written.real?
  let latency ← members.required "latency_ms" Written.real?
  let cpuTime ← members.required "cpu_time_ms" Written.real?
  let memory ← members.withDefault "memory_used_bytes" 0.0 Written.real?
  let success ← members.required "success" Written.flag?
  let timestamp ← members.required "timestamp" Instant.decode
  return ⟨executionTime, latency, cpuTime, memory, success, timestamp⟩

def json (sample : Sample) : Json :=
  .record [
    ("execution_time_ms", .ofFloat sample.executionTime),
    ("latency_ms", .ofFloat sample.latency),
    ("cpu_time_ms", .ofFloat sample.cpuTime),
    ("memory_used_bytes", .ofFloat sample.memory),
    ("success", .bool sample.success),
    ("timestamp", sample.timestamp.json)]

end Sample

end Polystore
