import Polystore.Proofs.History.Outcomes
import Polystore.Proofs.Routing.Timing
import Polystore.Proofs.Routing.Selected
import Polystore.Proofs.Routing.Isolation
import Polystore.Routing.Mediator

/-!
# How a chosen query is run

A store is chosen after some stores were probed.  It is then run alone, or side
by side with the other located stores; either way the stores that are asked are
those of the records that are appended, in the same order.
-/

namespace Polystore

/-- How the store of a record was asked. -/
def ExecutionRecord.contact (record : ExecutionRecord) : Contact :=
  .query record.store record.executedQuery

theorem ExecutionRecord.textFor?_contacts (name : String)
    (records : List ExecutionRecord) :
    (records.map contact).filterMap (Contact.textFor? name) =
      (records.filter (·.store == name)).map (·.executedQuery) := by
  induction records with
  | nil => rfl
  | cons record records induction =>
      by_cases isStore : record.store = name
      · simp [Contact.textFor?, contact, Contact.store, Contact.request,
          Store.Request.text?, isStore, ← induction]
      · simp [Contact.textFor?, contact, Contact.store, isStore, ← induction]

theorem Measurement.exists_ofReply? {reply : Reply Response}
    (ends : reply ≠ .crashed) (metrics : Metrics) :
    ∃ measurement, ofReply? metrics reply = some measurement := by
  cases reply with
  | answered response => exact ⟨_, rfl⟩
  | failed fault => exact ⟨_, rfl⟩
  | crashed => exact absurd rfl ends

namespace Mediator

/-- The mediator when its stores have been contacted. -/
def contacted (mediator : Mediator) (contacts : List Contact) : Mediator :=
  { mediator with
    registry := mediator.registry.follow mediator.settings.storeTimeoutMs
      contacts }

/-- The probes that come before a query is run for a target. -/
def probes (mediator : Mediator) (query : String) : Target → List Contact
  | .automatic => (mediator.candidates query).filterMap Candidate.probe?
  | .store _ => []

/-- The mediator after the probes for a target. -/
def probed (mediator : Mediator) (query : String) (target : Target) :
    Mediator :=
  mediator.contacted (mediator.probes query target)

/-- The store that was chosen for a target, after the probes. -/
structure Chosen (mediator : Mediator) (query : String) (target : Target)
    (selection : Selection) : Prop where
  chosen : mediator.choose query target =
    (mediator.probed query target, .ok selection)
  registered : selection.store ∈ mediator.registry.names
  located : ∃ located : List Candidate,
    located.Sublist (mediator.candidates query) ∧
      selection.located = located.map Candidate.name
  among : selection.located ≠ [] → selection.store ∈ selection.located
  free : selection.located ≠ [] → target = .automatic

variable {mediator : Mediator} {query : String}

theorem textFor?_probes (mediator : Mediator) (query : String)
    (target : Target) (name : String) :
    (mediator.probes query target).filterMap (Contact.textFor? name) = [] := by
  cases target with
  | automatic => exact Candidate.textFor?_probes name _
  | store _ => rfl

theorem isProbe_of_mem_probes {target : Target} {contact : Contact}
    (member : contact ∈ mediator.probes query target) : contact.IsProbe := by
  cases target with
  | automatic =>
      obtain ⟨candidate, _, isContact⟩ := List.mem_filterMap.mp member
      exact (Candidate.isProbe_of_probe? isContact).1
  | store _ => cases member

/-- Choosing probes stores and changes nothing else. -/
theorem choose_fst (mediator : Mediator) (query : String) (target : Target) :
    (mediator.choose query target).1 = mediator.probed query target := by
  cases target with
  | automatic =>
      rw [probed, contacted, probes, ← Location.registry_locate]
      rfl
  | store _ => rfl

theorem candidates_probed (distinct : mediator.registry.names.Nodup)
    (query : String) (target : Target) :
    (mediator.probed query target).candidates query =
      mediator.candidates query :=
  Candidate.all_congr (Registry.descriptors_follow distinct _ _)

theorem names_probed (distinct : mediator.registry.names.Nodup)
    (query : String) (target : Target) :
    (mediator.probed query target).registry.names =
      mediator.registry.names := by
  rw [Registry.names_eq_map_descriptors, Registry.names_eq_map_descriptors]
  exact congrArg (List.map Descriptor.name)
    (Registry.descriptors_follow distinct _ _)

theorem exists_chosen_automatic (sound : mediator.registry.Sound)
    (query : String) :
    ∃ selection, mediator.Chosen query .automatic selection := by
  have sublist := Location.located_sublist mediator.settings.storeTimeoutMs
    mediator.registry (mediator.candidates query)
  have registered : ∀ candidate ∈ (Location.locate
      mediator.settings.storeTimeoutMs mediator.registry
      (mediator.candidates query)).2,
      candidate.name ∈ mediator.registry.names := fun candidate member =>
    Candidate.name_mem_of_mem_all (sublist.subset member)
  obtain ⟨selection, isSelected, fits⟩ :=
    Selection.exists_select sound.nonempty registered mediator.settings
      mediator.history.model query (Query.classify query)
  refine ⟨selection, ?_⟩
  constructor
  · rw [← choose_fst, ← isSelected]
    rfl
  · exact fits.registered
  · exact ⟨_, sublist, fits.names⟩
  · intro some
    rw [fits.names] at some ⊢
    exact fits.among fun none => some (by rw [none, List.map_nil])
  · exact fun _ => rfl

theorem exists_chosen_store {name : String}
    (member : name ∈ mediator.registry.names) (query : String) :
    ∃ selection, mediator.Chosen query (.store name) selection := by
  obtain ⟨selection, isForced, isStore, noneLocated⟩ :=
    Selection.forced_of_mem member mediator.settings query
      (Query.classify query)
  refine ⟨selection, ?_⟩
  constructor
  · rw [choose, isForced]
    rfl
  · rw [isStore]
    exact member
  · exact ⟨[], List.nil_sublist _, noneLocated⟩
  · exact fun some => absurd noneLocated some
  · exact fun some => absurd noneLocated some

/-- The mediator after contacts with its stores, with records appended. -/
def appending (mediator : Mediator) (contacts : List Contact)
    (records : List ExecutionRecord) : Mediator :=
  (mediator.contacted contacts).record records

theorem runSelected_of_crashed (selection : Selection) {store : Store}
    (found : mediator.registry.find? selection.store = some store)
    (crashes : (store.executeWithin mediator.settings.storeTimeoutMs
      selection.query).2 = .crashed)
    (surroundings : Surroundings) (query : String) (target : Target) :
    mediator.runSelected surroundings query target selection =
      (mediator.contacted [.query selection.store selection.query],
        .crashed) := by
  have asked := Registry.contact_of_find? mediator.settings.storeTimeoutMs
    (.query selection.store selection.query) found
  have measured : mediator.recorder.measure surroundings.meter store
      selection.query = (store.asked mediator.settings.storeTimeoutMs
        (.query selection.store selection.query), none) := by
    show (_, Measurement.ofReply? _ (store.executeWithin
      mediator.settings.storeTimeoutMs selection.query).2) = _
    rw [crashes]
    rfl
  simp only [runSelected, Registry.get, found, measured, ← asked]
  rfl

theorem runSelected_of_measured (selection : Selection) {store : Store}
    {surroundings : Surroundings} {measurement : Measurement}
    (found : mediator.registry.find? selection.store = some store)
    (isMeasured : Measurement.ofReply? (.ofReadings
        mediator.settings.latencyRatio (surroundings.meter store))
      (store.executeWithin mediator.settings.storeTimeoutMs
        selection.query).2 = some measurement)
    (query : String) (target : Target) :
    let result := QueryResult.ofMeasurement selection.store selection.query
      selection.dialect selection.converted measurement
    let after := mediator.appending
      [.query selection.store selection.query]
      [.ofResult (surroundings.ids 0) surroundings.now query target.origin
        result]
    mediator.runSelected surroundings query target selection =
      (after, .answered
        (after.answer query selection result (surroundings.ids 0) [])) := by
  have asked := Registry.contact_of_find? mediator.settings.storeTimeoutMs
    (.query selection.store selection.query) found
  have measured : mediator.recorder.measure surroundings.meter store
      selection.query = (store.asked mediator.settings.storeTimeoutMs
        (.query selection.store selection.query), some measurement) := by
    rw [← isMeasured]
    rfl
  simp only [runSelected, Registry.get, found, measured, ← asked]
  rfl

theorem runSelected_eq {selection : Selection}
    (sound : mediator.registry.Sound)
    (member : selection.store ∈ mediator.registry.names)
    (surroundings : Surroundings) (query : String) (target : Target) :
    ∃ result : QueryResult, result.store = selection.store ∧
      ∀ record, record = ExecutionRecord.ofResult (surroundings.ids 0)
          surroundings.now query target.origin result →
        mediator.runSelected surroundings query target selection =
          (mediator.appending [record.contact] [record],
            .answered ((mediator.appending [record.contact] [record]).answer
              query selection result (surroundings.ids 0) [])) := by
  obtain ⟨store, found⟩ := Registry.exists_find? member
  have steady := sound.steady store (Registry.find?_eq_some found).1
  obtain ⟨measurement, isMeasured⟩ := Measurement.exists_ofReply?
    (Store.executeWithin_of_steady steady _ selection.query).2
    (.ofReadings mediator.settings.latencyRatio (surroundings.meter store))
  refine ⟨.ofMeasurement selection.store selection.query selection.dialect
    selection.converted measurement, rfl, ?_⟩
  rintro record rfl
  exact runSelected_of_measured selection found isMeasured query target

/-- What a record takes from its result alone is the same for both. -/
theorem map_recordsOf {α : Type} (surroundings : Surroundings) (query : String)
    (origin : QueryResult → Origin) (results : List QueryResult)
    {f : ExecutionRecord → α} {g : QueryResult → α}
    (same : ∀ id result, f (.ofResult id surroundings.now query
      (origin result) result) = g result) :
    (recordsOf surroundings query origin results).map f = results.map g := by
  have onResults : (recordsOf surroundings query origin results).map f =
      (results.zipIdx.map Prod.fst).map g := by
    rw [recordsOf, List.map_map, List.map_map]
    exact List.map_congr_left fun entry _ => same _ _
  rwa [List.zipIdx_map_fst] at onResults

theorem mem_recordsOf_iff {surroundings : Surroundings} {query : String}
    {origin : QueryResult → Origin} {results : List QueryResult}
    {record : ExecutionRecord} :
    record ∈ recordsOf surroundings query origin results ↔
      ∃ result place, results[place]? = some result ∧
        record = .ofResult (surroundings.ids place) surroundings.now query
          (origin result) result := by
  rw [recordsOf, List.mem_map]
  constructor
  · rintro ⟨⟨result, place⟩, member, rfl⟩
    exact ⟨result, place, List.mem_zipIdx_iff_getElem?.mp member, rfl⟩
  · rintro ⟨result, place, isPlace, rfl⟩
    exact ⟨(result, place), List.mem_zipIdx_iff_getElem?.mpr isPlace, rfl⟩

theorem executeAll_eq (nonempty : mediator.candidates query ≠ [])
    (surroundings : Surroundings) :
    let results := (FanOut.run mediator.recorder surroundings.meter
      mediator.registry (mediator.candidates query)).2
    mediator.executeAll surroundings query =
      (mediator.appending ((mediator.candidates query).map Candidate.contact)
        (recordsOf surroundings query (fun _ => .comparison) results),
        .ok results) := by
  have asked := FanOut.run_registry mediator.recorder surroundings.meter
    mediator.registry (mediator.candidates query)
  have isSome : (mediator.candidates query).isEmpty = false :=
    List.isEmpty_eq_false_iff.mpr nonempty
  simp only [executeAll, isSome, Bool.false_eq_true, if_false, asked]
  rfl

theorem explore_eq {selection : Selection} {located : List Candidate}
    (distinct : mediator.registry.names.Nodup)
    (sublist : located.Sublist (mediator.candidates query))
    (areLocated : selection.located = located.map Candidate.name)
    (among : selection.store ∈ selection.located)
    (surroundings : Surroundings) :
    ∃ results : List QueryResult,
      results.map (·.store) = selection.located ∧
      ∃ result place, results[place]? = some result ∧
        result.store = selection.store ∧
        ∀ records, records = recordsOf surroundings query (fun result =>
            if result.store == selection.store then .routed else .comparison)
            results →
          mediator.explore surroundings query selection =
            (mediator.appending (records.map ExecutionRecord.contact) records,
              .answered ((mediator.appending
                (records.map ExecutionRecord.contact) records).answer query
                  selection result (surroundings.ids place)
                  (selection.located.filter fun name =>
                    !(name == selection.store)))) := by
  have found : (mediator.candidates query).filter (fun candidate =>
      selection.located.contains candidate.name) = located := by
    rw [areLocated]
    exact Candidate.filter_of_sublist sublist (Candidate.nodup_all distinct
      mediator.settings query (Query.classify query))
  have describe := FanOut.describes_run mediator.recorder surroundings.meter
    mediator.registry located
  have asked := FanOut.run_registry mediator.recorder surroundings.meter
    mediator.registry located
  rcases ran : FanOut.run mediator.recorder surroundings.meter
    mediator.registry located with ⟨registry, results⟩
  rw [ran] at describe asked
  replace asked : registry = mediator.registry.follow
      mediator.settings.storeTimeoutMs (located.map Candidate.contact) := asked
  subst asked
  have stores : results.map (·.store) = selection.located :=
    (FanOut.stores_of_describes describe).trans areLocated.symm
  have contacts : (recordsOf surroundings query (fun result =>
      if result.store == selection.store then .routed else .comparison)
      results).map ExecutionRecord.contact =
      located.map Candidate.contact := by
    rw [← FanOut.contacts_of_describes describe]
    exact map_recordsOf _ _ _ _ fun _ _ => rfl
  obtain ⟨result, place, isPlace, isStore, isFound⟩ :=
    FanOut.exists_named (stores ▸ among)
  have compared : (results.filter fun result =>
      !(result.store == selection.store)).map (·.store) =
      selection.located.filter fun name => !(name == selection.store) := by
    rw [← stores, List.filter_map]
    rfl
  refine ⟨results, stores, result, place, isPlace, isStore, ?_⟩
  rintro records rfl
  simp only [explore, found, ran, isFound, compared, appending,
    contacted, contacts]

end Mediator

end Polystore
