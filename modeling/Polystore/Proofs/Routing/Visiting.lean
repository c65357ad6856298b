import Polystore.Proofs.Keyed
import Polystore.Proofs.Routing.Candidates

/-!
# Visiting candidates in any order

Candidates that are served side by side get to their stores in any order.  A
visit finds the stores as the visits before it have left them, and what it does
not contact stays as it is.
-/

namespace Polystore

namespace Candidate

variable {α : Type} (visit : Nat → Registry → Candidate → Registry × Option α)
  (candidates : List Candidate)

/-- Visits the candidate at a place; there is nothing to visit behind the
candidates. -/
def visitOne (registry : Registry) (place : Nat) : Registry × Option α :=
  match candidates[place]? with
  | none => (registry, none)
  | some candidate => visit place registry candidate

/-- Visits the candidates at some places, with the places of the visits that
have a result. -/
def visitAt (registry : Registry) :
    List Nat → Registry × List (Nat × α)
  | [] => (registry, [])
  | place :: places =>
    let (registry, result) := visitOne visit candidates registry place
    let (registry, results) := visitAt registry places
    (registry, (result.map (place, ·)).toList ++ results)

/-- The stores as the visit of a place finds them. -/
def foundAt (registry : Registry) (places : List Nat) (place : Nat) :
    Registry :=
  (visitAt visit candidates registry (places.takeWhile (· != place))).1

variable {visit : Nat → Registry → Candidate → Registry × Option α}
  {candidates : List Candidate} {candidate : Candidate} {registry : Registry}
  {place : Nat} {places : List Nat}

theorem visitOne_of_some (here : candidates[place]? = some candidate) :
    visitOne visit candidates registry place =
      visit place registry candidate := by
  rw [visitOne, here]

theorem registry_visitAt_cons :
    (visitAt visit candidates registry (place :: places)).1 =
      (visitAt visit candidates
        (visitOne visit candidates registry place).1 places).1 := rfl

theorem results_visitAt_cons :
    (visitAt visit candidates registry (place :: places)).2 =
      ((visitOne visit candidates registry place).2.map (place, ·)).toList ++
        (visitAt visit candidates
          (visitOne visit candidates registry place).1 places).2 := rfl

theorem foundAt_self :
    foundAt visit candidates registry (place :: places) place = registry := by
  simp [foundAt, visitAt]

theorem foundAt_cons {other : Nat} (different : place ≠ other) :
    foundAt visit candidates registry (place :: places) other =
      foundAt visit candidates
        (visitOne visit candidates registry place).1 places other := by
  have goesOn : (place :: places).takeWhile (· != other) =
      place :: places.takeWhile (· != other) := by
    simp [different]
  rw [foundAt, goesOn, registry_visitAt_cons, foundAt]

theorem results_visitAt (distinct : places.Nodup) :
    (visitAt visit candidates registry places).2 =
      places.filterMap fun place =>
        (visitOne visit candidates
          (foundAt visit candidates registry places place) place).2.map
            (place, ·) := by
  induction places generalizing registry with
  | nil => rfl
  | cons first places induction =>
      obtain ⟨isNew, distinctRest⟩ := List.nodup_cons.mp distinct
      rw [results_visitAt_cons, induction distinctRest]
      have later : ∀ place ∈ places,
          foundAt visit candidates
            (visitOne visit candidates registry first).1 places place =
              foundAt visit candidates registry (first :: places) place := by
        intro place member
        rw [foundAt_cons]
        rintro rfl
        exact isNew member
      rw [List.filterMap_cons, foundAt_self]
      have rest := List.filterMap_congr fun place member =>
        congrArg (fun found => (visitOne visit candidates found place).2.map
          (place, ·)) (later place member)
      rw [rest]
      cases (visitOne visit candidates registry first).2 <;> rfl

theorem lookup_visitAt (distinct : places.Nodup) (member : place ∈ places) :
    (visitAt visit candidates registry places).2.lookup place =
      (visitOne visit candidates
        (foundAt visit candidates registry places place) place).2 := by
  rw [results_visitAt distinct, lookup_filterMap, if_pos member]

theorem places_visitAt (registry : Registry) (places : List Nat) :
    ((visitAt visit candidates registry places).2.map Prod.fst).Sublist
      places := by
  induction places generalizing registry with
  | nil => exact .slnil
  | cons place places induction =>
      rw [results_visitAt_cons, List.map_append]
      cases (visitOne visit candidates registry place).2 with
      | none => exact (induction _).cons place
      | some result => exact (induction _).cons_cons place

/-- The stores have been contacted as the candidates ask, in the order of the
visits. -/
theorem registry_visitAt {limit : Nat} {contacts : Candidate → List Contact}
    (follows : ∀ place registry candidate,
      (visit place registry candidate).1 =
        registry.follow limit (contacts candidate))
    (registry : Registry) (places : List Nat) :
    (visitAt visit candidates registry places).1 =
      registry.follow limit
        ((places.filterMap (candidates[·]?)).flatMap contacts) := by
  induction places generalizing registry with
  | nil => rfl
  | cons place places induction =>
      rw [registry_visitAt_cons, induction, visitOne, List.filterMap_cons]
      cases candidates[place]? with
      | none => rfl
      | some candidate =>
          simp only [follows, List.flatMap_cons, Registry.follow_append]

theorem find?_visitAt {name : String}
    (others : ∀ place ∈ places, ∀ candidate,
      candidates[place]? = some candidate → candidate.name ≠ name)
    (apart : ∀ place registry candidate, candidate.name ≠ name →
      (visit place registry candidate).1.find? name = registry.find? name) :
    (visitAt visit candidates registry places).1.find? name =
      registry.find? name := by
  induction places generalizing registry with
  | nil => rfl
  | cons place places induction =>
      obtain ⟨first, rest⟩ := List.forall_mem_cons.mp others
      rw [registry_visitAt_cons, induction rest, visitOne]
      split
      · rfl
      · rename_i candidate here
        exact apart place registry candidate (first candidate here)

/-- A visit of a candidate that is the only one of its name finds the store of
the candidate as it was. -/
theorem find?_foundAt (here : candidates[place]? = some candidate)
    (distinct : (candidates.map Candidate.name).Nodup)
    (apart : ∀ place registry other, other.name ≠ candidate.name →
      (visit place registry other).1.find? candidate.name =
        registry.find? candidate.name) :
    (foundAt visit candidates registry places place).find? candidate.name =
      registry.find? candidate.name := by
  apply find?_visitAt _ apart
  intro otherPlace earlier other there sameName
  have different : otherPlace ≠ place := by
    simpa using List.all_eq_true.mp List.all_takeWhile _ earlier
  have named : (candidates.map Candidate.name)[otherPlace]? =
      (candidates.map Candidate.name)[place]? := by
    rw [List.getElem?_map, List.getElem?_map, there, here, Option.map_some,
      Option.map_some, sameName]
  obtain ⟨inside, _⟩ := List.getElem?_eq_some_iff.mp there
  exact different ((List.getElem?_inj (by simpa using inside) distinct).mp
    named)

end Candidate

end Polystore
