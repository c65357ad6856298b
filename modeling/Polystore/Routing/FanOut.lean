import Polystore.Execution.QueryResult
import Polystore.Routing.Candidate

/-!
# Fan-out

Running all candidates side by side.  Runs may end in any order; the results are
listed in the order of the candidates.  A store whose code crashed still has a
result, as a failure of that store.
-/

namespace Polystore

namespace Candidate

def result (candidate : Candidate) (measurement : Measurement) : QueryResult :=
  .ofMeasurement candidate.name candidate.query candidate.dialect
    candidate.converted measurement

/-- The result of a candidate whose store did not come to an end. -/
def unfinished (candidate : Candidate) : QueryResult :=
  candidate.result
    (.ofFault (.storeFailed s!"'{candidate.name}' did not complete the query"))

end Candidate

namespace FanOut

/-- The results in the order of the candidates, given those of the finished runs
in any order. -/
def gather (candidates : List Candidate) (finished : List (Nat × QueryResult)) :
    List QueryResult :=
  candidates.zipIdx.map fun (candidate, place) =>
    (finished.lookup place).getD candidate.unfinished

/-- Runs one candidate; there is no result when its store crashes. -/
def runOne (recorder : Recorder) (meter : Store → Readings)
    (registry : Registry) (candidate : Candidate) :
    Registry × Option QueryResult :=
  match registry.find? candidate.name with
  | none => (registry, none)
  | some store =>
    let (store, measurement) := recorder.measure meter store candidate.query
    (registry.put store, measurement.map candidate.result)

/-- Runs the candidates from a place on, with the places of the finished
ones. -/
def runFrom (recorder : Recorder) (meter : Store → Readings) (place : Nat)
    (registry : Registry) :
    List Candidate → Registry × List (Nat × QueryResult)
  | [] => (registry, [])
  | candidate :: rest =>
    let (registry, result) := runOne recorder meter registry candidate
    let (registry, results) := runFrom recorder meter (place + 1) registry rest
    (registry, (result.map (place, ·)).toList ++ results)

def run (recorder : Recorder) (meter : Store → Readings) (registry : Registry)
    (candidates : List Candidate) : Registry × List QueryResult :=
  let (registry, finished) := runFrom recorder meter 0 registry candidates
  (registry, gather candidates finished)

end FanOut

end Polystore
