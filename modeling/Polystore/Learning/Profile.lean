import Polystore.Learning.Aggregate
import Polystore.Learning.Sample
import Polystore.Learning.Window

/-!
# Profiles

The recent cost of one group of queries on one store.  The score weighs the mean
execution time, the mean latency, the mean processor time and the spread of the
execution time of the successful samples, each by the inverse of one more than
it, and multiplies the result with the rate of success.  Confidence grows with
the number of samples until it is saturated.
-/

namespace Polystore

/-- Summaries of the samples in a window; the four costs are those of the
successful ones. -/
structure Summary where
  executionTime : Aggregate
  latency : Aggregate
  cpuTime : Aggregate
  memory : Aggregate
  samples : Nat
  successes : Nat
  successRate : Float
deriving DecidableEq, Repr

namespace Summary

def zero : Summary := ⟨.zero, .zero, .zero, .zero, 0, 0, 0.0⟩

instance : Inhabited Summary := ⟨zero⟩

/-- The part of a number of cases; of no cases it is zero. -/
def rate (successes cases : Nat) : Float :=
  if cases == 0 then 0.0 else Float.ofNat successes / Float.ofNat cases

/-- The summary of a list of samples. -/
def ofSamples (samples : List Sample) : Summary :=
  let succeeded := samples.filter (·.success)
  { executionTime := .ofValues (succeeded.map (·.executionTime))
    latency := .ofValues (succeeded.map (·.latency))
    cpuTime := .ofValues (succeeded.map (·.cpuTime))
    memory := .ofValues (succeeded.map (·.memory))
    samples := samples.length
    successes := succeeded.length
    successRate := rate succeeded.length samples.length }

/-- The greater one of a value and zero; zero for what is no number. -/
def nonNegative (value : Float) : Float :=
  if value > 0.0 then value else 0.0

/-- One over one more than a cost. -/
def inverse (cost : Float) : Float :=
  1.0 / (nonNegative cost + 1.0)

/-- The score of a summary, higher for cheaper and more reliable stores. -/
def score (summary : Summary) : Float :=
  if summary.successes == 0 then 0.0
  else
    let weighted := 0.4 * inverse summary.executionTime.mean
      + 0.3 * inverse summary.latency.mean
      + 0.2 * inverse summary.cpuTime.mean
      + 0.1 * inverse summary.executionTime.deviation
    summary.successRate * weighted

def decode (tree : Written) : Option Summary := do
  let members ← tree.members?
    ["execution_time", "latency", "cpu_time", "memory_used", "samples",
      "successes", "success_rate"]
  let executionTime ←
    members.withDefault "execution_time" .zero Aggregate.decode
  let latency ← members.withDefault "latency" .zero Aggregate.decode
  let cpuTime ← members.withDefault "cpu_time" .zero Aggregate.decode
  let memory ← members.withDefault "memory_used" .zero Aggregate.decode
  let samples ← members.withDefault "samples" 0 Written.natural?
  let successes ← members.withDefault "successes" 0 Written.natural?
  let successRate ← members.withDefault "success_rate" 0.0 Written.real?
  return ⟨executionTime, latency, cpuTime, memory, samples, successes,
    successRate⟩

/-- A summary as a document value, its numbers written by `number`. -/
def jsonWith (number : Float → Json) (summary : Summary) : Json :=
  .record [
    ("execution_time", summary.executionTime.jsonWith number),
    ("latency", summary.latency.jsonWith number),
    ("cpu_time", summary.cpuTime.jsonWith number),
    ("memory_used", summary.memory.jsonWith number),
    ("samples", .integer summary.samples),
    ("successes", .integer summary.successes),
    ("success_rate", number summary.successRate)]

end Summary

/-- Percentage of the samples needed for full confidence that are there. -/
def confidence (samples saturation : Nat) : Float :=
  let part := Float.ofNat samples / Float.ofNat (max saturation 1)
  (if part < 1.0 then part else 1.0) * 100.0

/-- The number of samples for full confidence when nothing else is said. -/
def defaultSaturation : Nat := 50

/-- What is known about the cost of a group of queries on a store. -/
structure Profile where
  store : String
  window : Window Sample
  summary : Summary
  score : Float
  confidence : Float
  updatedAt : Instant
deriving DecidableEq, Repr, Inhabited

namespace Profile

def empty (store : String) (capacity : Nat) (now : Instant) : Profile :=
  ⟨store, .empty capacity, .zero, 0.0, 0.0, now⟩

def samples (profile : Profile) : Nat :=
  profile.window.size

/-- The profile with summary, score and confidence derived from its window
alone. -/
def recompute (profile : Profile) (saturation : Nat) : Profile :=
  let summary := Summary.ofSamples profile.window.samples
  { profile with
    summary
    score := summary.score
    confidence := Polystore.confidence profile.window.size saturation }

/-- The profile with one more sample. -/
def observe (profile : Profile) (sample : Sample) (saturation : Nat) :
    Profile :=
  { profile with
    updatedAt := sample.timestamp
    window := profile.window.push sample }
    |>.recompute saturation

/-- The time of the newest sample in the window. -/
def latestSampleAt? (profile : Profile) : Option Instant :=
  match profile.window.samples.map (·.timestamp) with
  | [] => none
  | first :: rest => some (rest.foldl Instant.latest first)

def decode (tree : Written) : Option Profile := do
  let members ← tree.members?
    ["store", "window", "aggregates", "score", "confidence", "updated_at"]
  let store ← members.required "store" Written.text?
  let window ← members.required "window" (Window.decode Sample.decode)
  let summary ← members.withDefault "aggregates" .zero Summary.decode
  let score ← members.withDefault "score" 0.0 Written.real?
  let confidence ← members.withDefault "confidence" 0.0 Written.real?
  let updatedAt ← members.required "updated_at" Instant.decode
  return ⟨store, window, summary, score, confidence, updatedAt⟩

def json (profile : Profile) : Json :=
  .record [
    ("store", .string profile.store),
    ("window", profile.window.json Sample.json),
    ("aggregates", profile.summary.jsonWith .ofFloat),
    ("score", .ofFloat profile.score),
    ("confidence", .ofFloat profile.confidence),
    ("updated_at", profile.updatedAt.json)]

end Profile

end Polystore
