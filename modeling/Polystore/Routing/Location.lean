import Polystore.Query.Subject
import Polystore.Routing.Candidate

/-!
# Location

Which candidates hold the data that a query addresses.  Each candidate with a
subject is probed for it; a probe that fails, crashes or takes too long counts
as absence.  Probes may end in any order, and the located candidates are listed
in the order of the candidates.
-/

namespace Polystore.Location

/-- The probe has found the data. -/
def isPresent : Reply Bool → Bool
  | .answered present => present
  | _ => false

/-- The located candidates, given the places of the probed ones with the
findings in any order. -/
def gather (candidates : List Candidate) (findings : List (Nat × Bool)) :
    List Candidate :=
  let present := (findings.filter (·.2)).map (·.1)
  (present.mergeSort (· ≤ ·)).filterMap (candidates[·]?)

/-- Probes one candidate; there is no finding when nothing can be probed. -/
def probeOne (limit : Nat) (registry : Registry) (candidate : Candidate) :
    Registry × Option Bool :=
  match Query.subject? candidate.dialect candidate.query,
    registry.find? candidate.name with
  | some subject, some store =>
    let (store, reply) := store.probeWithin limit subject
    (registry.put store, some (isPresent reply))
  | _, _ => (registry, none)

/-- Probes the candidates from a place on, with their places and findings. -/
def probeFrom (limit place : Nat) (registry : Registry) :
    List Candidate → Registry × List (Nat × Bool)
  | [] => (registry, [])
  | candidate :: rest =>
    let (registry, finding) := probeOne limit registry candidate
    let (registry, findings) := probeFrom limit (place + 1) registry rest
    (registry, (finding.map (place, ·)).toList ++ findings)

/-- The candidates that hold the data, each probed for at most `limit`
milliseconds. -/
def locate (limit : Nat) (registry : Registry) (candidates : List Candidate) :
    Registry × List Candidate :=
  let (registry, findings) := probeFrom limit 0 registry candidates
  (registry, gather candidates findings)

end Polystore.Location
