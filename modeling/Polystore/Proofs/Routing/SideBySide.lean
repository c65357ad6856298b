import Polystore.Proofs.Routing.Candidates
import Polystore.Routing.FanOut

/-!
# Candidates that run side by side

Every candidate's store is asked once, with the candidate's text, and the
result of a store is found among those of all candidates.
-/

namespace Polystore

namespace Candidate

/-- How a candidate's store is asked. -/
def contact (candidate : Candidate) : Contact :=
  .query candidate.name candidate.query

end Candidate

namespace FanOut

theorem runOne_registry (recorder : Recorder) (meter : Store → Readings)
    (registry : Registry) (candidate : Candidate) :
    (runOne recorder meter registry candidate).1 =
      registry.contact recorder.timeoutMs candidate.contact := by
  unfold runOne Registry.contact Candidate.contact Contact.store
  cases registry.find? candidate.name <;> rfl

theorem runFrom_registry (recorder : Recorder) (meter : Store → Readings)
    (place : Nat) (registry : Registry) (candidates : List Candidate) :
    (runFrom recorder meter place registry candidates).1 =
      registry.follow recorder.timeoutMs
        (candidates.map Candidate.contact) := by
  induction candidates generalizing place registry with
  | nil => rfl
  | cons candidate rest induction =>
      calc (runFrom recorder meter place registry (candidate :: rest)).1
          = (runFrom recorder meter (place + 1)
              (runOne recorder meter registry candidate).1 rest).1 := rfl
        _ = (runOne recorder meter registry candidate).1.follow
              recorder.timeoutMs (rest.map Candidate.contact) :=
            induction _ _
        _ = registry.follow recorder.timeoutMs
              ((candidate :: rest).map Candidate.contact) := by
            rw [runOne_registry]
            rfl

theorem run_registry (recorder : Recorder) (meter : Store → Readings)
    (registry : Registry) (candidates : List Candidate) :
    (run recorder meter registry candidates).1 =
      registry.follow recorder.timeoutMs
        (candidates.map Candidate.contact) :=
  runFrom_registry recorder meter 0 registry candidates

theorem exists_named {results : List QueryResult} {name : String}
    (member : name ∈ results.map (·.store)) :
    ∃ result place, results[place]? = some result ∧ result.store = name ∧
      (results.zipIdx.reverse.find? fun (result, _) => result.store == name) =
        some (result, place) := by
  obtain ⟨some, inResults, isNamed⟩ := List.mem_map.mp member
  obtain ⟨index, isIndex⟩ := List.mem_iff_getElem?.mp inResults
  have inReverse : (some, index) ∈ results.zipIdx.reverse :=
    List.mem_reverse.mpr (List.mem_zipIdx_iff_getElem?.mpr isIndex)
  cases found : results.zipIdx.reverse.find? fun (result, _) =>
      result.store == name with
  | none =>
      have differs := List.find?_eq_none.mp found _ inReverse
      exact absurd (by simpa using isNamed) differs
  | some entry =>
      obtain ⟨result, place⟩ := entry
      have inZip := List.mem_reverse.mp (List.mem_of_find?_eq_some found)
      exact ⟨result, place, List.mem_zipIdx_iff_getElem?.mp inZip,
        by simpa using List.find?_some found, rfl⟩

end FanOut

end Polystore
