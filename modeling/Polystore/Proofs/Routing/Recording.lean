import Polystore.Proofs.Routing.Running

/-!
# Every execution is recorded once

A query for which the mediator chooses a store is always answered.  Every
candidate that addresses something is probed once, and then the stores of the
records that are appended are asked to run a query, each of them once.  One
record is the one of the answer; the others are those of the stores that were
run for comparison.
-/

namespace Polystore

/-- The located stores were run side by side for this answer. -/
def Answer.compares (settings : Settings) (answer : Answer) : Bool :=
  settings.compareWhileExploring
    && (answer.state == .noHistory || answer.state == .exploring)
    && 1 < answer.located.length

namespace Mediator

/-- What the mediator has done when it has answered a query. -/
structure Recorded (before : Mediator) (query : String) (target : Target)
    (answer : Answer) (after : Mediator) (records : List ExecutionRecord) :
    Prop where
  asked : after.registry =
    before.registry.follow before.settings.storeTimeoutMs
      (before.probes query target ++ records.map ExecutionRecord.contact)
  /-- What a store was asked to run in between is what it has records of. -/
  ran : ∀ name ∈ before.registry.names,
    after.registry.texts name = before.registry.texts name ++
      (records.filter (·.store == name)).map (·.executedQuery)
  distinct : (records.map (·.store)).Nodup
  registered : ∀ record ∈ records, record.store ∈ before.registry.names
  appended : (after.history, after.directory) =
    before.history.append before.directory records
  retained : after.history.records =
    (before.history.records ++ records).rtake before.history.limit
  learned : after.history.model =
    History.observeAll before.history.model records
  signed : ∀ record ∈ records,
    record.signature = .ofQuery query ∧ record.queryText = query
  identified : ∃ record ∈ records,
    record.store = answer.result.store ∧ record.id = answer.recordId
  alone : answer.compares before.settings = false →
    ∃ record, records = [record] ∧ record.origin = target.origin ∧
      answer.comparedWith = []
  compared : answer.compares before.settings = true →
    target = .automatic ∧ records.map (·.store) = answer.located ∧
      (∀ record ∈ records, record.origin =
        if record.store = answer.result.store then .routed else .comparison) ∧
      answer.comparedWith = answer.located.filter fun name =>
        !(name == answer.result.store)

variable {mediator : Mediator} {query : String} {target : Target}
  {selection : Selection}

theorem retained_appending (mediator : Mediator) (contacts : List Contact)
    {records : List ExecutionRecord} (nonempty : records ≠ []) :
    (mediator.appending contacts records).history.records =
      (mediator.history.records ++ records).rtake mediator.history.limit :=
  History.records_append_of_ne_nil mediator.history mediator.directory nonempty

theorem learned_appending (mediator : Mediator) (contacts : List Contact)
    (records : List ExecutionRecord) :
    (mediator.appending contacts records).history.model =
      History.observeAll mediator.history.model records :=
  History.model_append mediator.history mediator.directory records

theorem registry_appending (mediator : Mediator) (query : String)
    (target : Target) (records : List ExecutionRecord) :
    ((mediator.probed query target).appending
        (records.map ExecutionRecord.contact) records).registry =
      mediator.registry.follow mediator.settings.storeTimeoutMs
        (mediator.probes query target ++
          records.map ExecutionRecord.contact) := by
  rw [Registry.follow_append]
  rfl

theorem texts_appending (distinct : mediator.registry.names.Nodup)
    (query : String) (target : Target) (records : List ExecutionRecord)
    {name : String} (member : name ∈ mediator.registry.names) :
    ((mediator.probed query target).appending
        (records.map ExecutionRecord.contact) records).registry.texts name =
      mediator.registry.texts name ++
        (records.filter (·.store == name)).map (·.executedQuery) := by
  rw [registry_appending, Registry.texts_follow distinct member,
    List.filterMap_append, textFor?_probes, List.nil_append,
    ExecutionRecord.textFor?_contacts]

theorem Chosen.execute_eq
    (chosen : mediator.Chosen query target selection)
    (surroundings : Surroundings) :
    mediator.execute surroundings query target =
      if mediator.explores selection then
        (mediator.probed query target).explore surroundings query selection
      else
        (mediator.probed query target).runSelected surroundings query target
          selection := by
  rw [execute, chosen.chosen]
  rfl

theorem Chosen.recorded_alone
    (chosen : mediator.Chosen query target selection)
    (sound : mediator.registry.Sound)
    (notExplores : mediator.explores selection = false)
    (surroundings : Surroundings) :
    ∃ answer records,
      (mediator.execute surroundings query target).2 = .answered answer ∧
        mediator.Recorded query target answer
          (mediator.execute surroundings query target).1 records := by
  have soundProbed : (mediator.probed query target).registry.Sound :=
    (sound.follow _ _).1
  have sameNames := names_probed sound.distinct query target
  obtain ⟨result, isStore, ran⟩ :=
    runSelected_eq soundProbed (sameNames ▸ chosen.registered) surroundings
      query target
  obtain ⟨record, isRecord⟩ : ∃ record, record =
      ExecutionRecord.ofResult (surroundings.ids 0) surroundings.now query
        target.origin result := ⟨_, rfl⟩
  have recordStore : record.store = selection.store := by
    rw [isRecord]
    exact isStore
  rw [chosen.execute_eq, notExplores, if_neg (by simp), ran record isRecord]
  refine ⟨_, [record], rfl, ?_⟩
  constructor
  · exact registry_appending mediator query target [record]
  · exact fun _ => texts_appending sound.distinct query target [record]
  · exact List.nodup_singleton _
  · intro other isOther
    rw [List.mem_singleton.mp isOther, recordStore]
    exact chosen.registered
  · rfl
  · exact retained_appending (mediator.probed query target) _
      (List.cons_ne_nil _ _)
  · exact learned_appending (mediator.probed query target) _ _
  · intro other isOther
    rw [List.mem_singleton.mp isOther, isRecord]
    exact ⟨rfl, rfl⟩
  · exact ⟨record, List.mem_singleton_self _, by rw [isRecord]; rfl,
      by rw [isRecord]; rfl⟩
  · exact fun _ => ⟨record, rfl, by rw [isRecord]; rfl, rfl⟩
  · intro compares
    rw [explores] at notExplores
    rw [Answer.compares] at compares
    exact absurd (notExplores.symm.trans compares) (by simp)

theorem Chosen.recorded_compared
    (chosen : mediator.Chosen query target selection)
    (sound : mediator.registry.Sound)
    (isExploring : mediator.explores selection = true)
    (surroundings : Surroundings) :
    ∃ answer records,
      (mediator.execute surroundings query target).2 = .answered answer ∧
        mediator.Recorded query target answer
          (mediator.execute surroundings query target).1 records := by
  have someLocated : selection.located ≠ [] := by
    intro none
    simp [explores, none] at isExploring
  have distinctProbed : (mediator.probed query target).registry.names.Nodup :=
    names_probed sound.distinct query target ▸ sound.distinct
  have sameCandidates := candidates_probed sound.distinct query target
  obtain ⟨located, sublist, areLocated⟩ := chosen.located
  have distinct : selection.located.Nodup := by
    rw [areLocated]
    exact (Candidate.nodup_all sound.distinct mediator.settings query
      (Query.classify query)).sublist (sublist.map Candidate.name)
  obtain ⟨results, stores, result, place, isPlace, isStore, ran⟩ :=
    explore_eq distinctProbed (sameCandidates ▸ sublist) areLocated
      (chosen.among someLocated) surroundings
  obtain ⟨records, areRecords⟩ : ∃ records, records = recordsOf surroundings
    query (fun result =>
      if result.store == selection.store then .routed else .comparison)
    results := ⟨_, rfl⟩
  have recordStores : records.map (·.store) = selection.located := by
    rw [areRecords, ← stores]
    exact map_recordsOf _ _ _ _ fun _ _ => rfl
  rw [chosen.execute_eq, isExploring, if_pos rfl, ran records areRecords]
  refine ⟨_, records, rfl, ?_⟩
  constructor
  · exact registry_appending mediator query target records
  · exact fun _ => texts_appending sound.distinct query target records
  · rw [recordStores]
    exact distinct
  · intro record member
    have inLocated : record.store ∈ selection.located :=
      recordStores ▸ List.mem_map_of_mem member
    rw [areLocated] at inLocated
    obtain ⟨candidate, isCandidate, same⟩ := List.mem_map.mp inLocated
    exact same ▸ Candidate.name_mem_of_mem_all (sublist.subset isCandidate)
  · rfl
  · refine retained_appending (mediator.probed query target) _ ?_
    rintro rfl
    exact someLocated recordStores.symm
  · exact learned_appending (mediator.probed query target) _ _
  · intro record member
    obtain ⟨_, _, _, rfl⟩ := mem_recordsOf_iff.mp (areRecords ▸ member)
    exact ⟨rfl, rfl⟩
  · subst areRecords
    exact ⟨_, mem_recordsOf_iff.mpr ⟨result, place, isPlace, rfl⟩, rfl, rfl⟩
  · intro notCompares
    rw [explores] at isExploring
    rw [Answer.compares] at notCompares
    exact absurd (notCompares.symm.trans isExploring) (by simp)
  · intro _
    refine ⟨chosen.free someLocated, recordStores, ?_, ?_⟩
    · intro record member
      obtain ⟨other, _, _, rfl⟩ := mem_recordsOf_iff.mp (areRecords ▸ member)
      show (if other.store == selection.store then Origin.routed
        else .comparison) = if other.store = result.store then _ else _
      simp [isStore]
    · show _ = selection.located.filter fun name => !(name == result.store)
      rw [isStore]
      rfl

theorem Chosen.recorded
    (chosen : mediator.Chosen query target selection)
    (sound : mediator.registry.Sound) (surroundings : Surroundings) :
    ∃ answer records,
      (mediator.execute surroundings query target).2 = .answered answer ∧
        mediator.Recorded query target answer
          (mediator.execute surroundings query target).1 records := by
  cases exploring : mediator.explores selection with
  | false => exact chosen.recorded_alone sound exploring surroundings
  | true => exact chosen.recorded_compared sound exploring surroundings

/-- A target that is registered or left open is answered. -/
theorem exists_recorded (sound : mediator.registry.Sound)
    (known : ∀ name, target = .store name → name ∈ mediator.registry.names)
    (surroundings : Surroundings) (query : String) :
    ∃ answer records,
      (mediator.execute surroundings query target).2 = .answered answer ∧
        mediator.Recorded query target answer
          (mediator.execute surroundings query target).1 records := by
  cases target with
  | automatic =>
      obtain ⟨selection, chosen⟩ := exists_chosen_automatic sound query
      exact chosen.recorded sound surroundings
  | store name =>
      obtain ⟨selection, chosen⟩ := exists_chosen_store (known name rfl) query
      exact chosen.recorded sound surroundings

theorem execute_of_not_mem {name : String}
    (absent : name ∉ mediator.registry.names) (surroundings : Surroundings)
    (query : String) :
    mediator.execute surroundings query (.store name) =
      (mediator, .failed (mediator.registry.unknown name)) := by
  rw [execute, choose, Selection.forced_of_not_mem absent]

/-- A mediator that was created over stores that do not crash, after any of its
operations.  Between two of them the stores and the directory may change as
they like. -/
inductive Reachable : Mediator → Prop where
  | created {stores : List Store} {registry : Registry} {settings : Settings}
      {directory : DataDirectory} {mediator : Mediator} :
      Registry.ofList stores = .ok registry →
      (∀ store ∈ stores, store.Steady) →
      create settings registry directory = .ok mediator →
      Reachable mediator
  | recommended {mediator : Mediator} (query : String) :
      Reachable mediator → Reachable (mediator.recommend query).1
  | executed {mediator : Mediator} (surroundings : Surroundings)
      (query : String) (target : Target) :
      Reachable mediator →
      Reachable (mediator.execute surroundings query target).1
  | executedAll {mediator : Mediator} (surroundings : Surroundings)
      (query : String) :
      Reachable mediator →
      Reachable (mediator.executeAll surroundings query).1
  | cleared {mediator : Mediator} :
      Reachable mediator → Reachable mediator.clear
  | disturbed {mediator : Mediator} (registry : Registry)
      (directory : DataDirectory) :
      Reachable mediator →
      registry.descriptors = mediator.registry.descriptors →
      (∀ store ∈ registry.stores, store.Steady) →
      Reachable { mediator with registry, directory }

theorem create_eq_ok {settings : Settings} {registry : Registry}
    {directory : DataDirectory}
    (created : create settings registry directory = .ok mediator) :
    mediator.registry = registry ∧ registry.stores ≠ [] := by
  unfold create at created
  split at created
  · cases created
  · split at created
    · cases created
    · rename_i nonempty
      cases created
      exact ⟨rfl, by simpa using nonempty⟩

theorem sound_execute (sound : mediator.registry.Sound)
    (surroundings : Surroundings) (query : String) (target : Target) :
    (mediator.execute surroundings query target).1.registry.Sound := by
  by_cases known : ∀ name, target = .store name →
      name ∈ mediator.registry.names
  · obtain ⟨answer, records, _, recorded⟩ :=
      exists_recorded sound known surroundings query
    rw [recorded.asked]
    exact (sound.follow _ _).1
  · push Not at known
    obtain ⟨name, rfl, absent⟩ := known
    rw [execute_of_not_mem absent]
    exact sound

theorem sound_recommend (sound : mediator.registry.Sound) (query : String) :
    (mediator.recommend query).1.registry.Sound := by
  show (Location.locate mediator.settings.storeTimeoutMs mediator.registry
    (mediator.candidates query)).1.Sound
  rw [Location.registry_locate]
  exact (sound.follow _ _).1

theorem sound_executeAll (sound : mediator.registry.Sound)
    (surroundings : Surroundings) (query : String) :
    (mediator.executeAll surroundings query).1.registry.Sound := by
  rw [executeAll]
  split
  · exact sound
  · show (FanOut.run mediator.recorder surroundings.meter mediator.registry
      (mediator.candidates query)).1.Sound
    rw [FanOut.run_registry]
    exact (sound.follow _ _).1

theorem Reachable.sound (reached : mediator.Reachable) :
    mediator.registry.Sound := by
  induction reached with
  | created registered steady created =>
      obtain ⟨isStores, distinct⟩ := Registry.ofList_eq_ok registered
      obtain ⟨rfl, nonempty⟩ := create_eq_ok created
      exact ⟨nonempty, distinct, isStores ▸ steady⟩
  | recommended query _ sound => exact sound_recommend sound query
  | executed surroundings query target _ sound =>
      exact sound_execute sound surroundings query target
  | executedAll surroundings query _ sound =>
      exact sound_executeAll sound surroundings query
  | cleared _ sound => exact sound
  | disturbed registry directory _ same steady sound =>
      exact sound.of_descriptors same steady

/-- Every execution is answered and recorded once, except that a store which is
not registered is refused without a trace. -/
theorem execute_records_once (reached : mediator.Reachable)
    (surroundings : Surroundings) (query : String) :
    (∃ answer, (mediator.execute surroundings query .automatic).2 =
      .answered answer) ∧
    (∀ name, (∃ fault, (mediator.execute surroundings query (.store name)).2 =
        .failed fault) ↔ name ∉ mediator.registry.names) ∧
    (∀ name, name ∈ mediator.registry.names →
      ∃ answer, (mediator.execute surroundings query (.store name)).2 =
        .answered answer) ∧
    (∀ name, name ∉ mediator.registry.names →
      (mediator.execute surroundings query (.store name)).1 = mediator) ∧
    ∀ target answer,
      (mediator.execute surroundings query target).2 = .answered answer →
      ∃ records, mediator.Recorded query target answer
        (mediator.execute surroundings query target).1 records := by
  have sound := reached.sound
  have isKnown : ∀ name ∈ mediator.registry.names, ∀ other,
      Target.store name = .store other → other ∈ mediator.registry.names := by
    rintro name member other ⟨⟩
    exact member
  have answersKnown : ∀ name ∈ mediator.registry.names,
      ∃ answer, (mediator.execute surroundings query (.store name)).2 =
        .answered answer := by
    intro name member
    obtain ⟨answer, _, answered, _⟩ :=
      exists_recorded sound (isKnown name member) surroundings query
    exact ⟨answer, answered⟩
  have noName : ∀ name, Target.automatic = .store name →
      name ∈ mediator.registry.names := by
    rintro name ⟨⟩
  refine ⟨?_, ?_, answersKnown, ?_, ?_⟩
  · obtain ⟨answer, _, answered, _⟩ :=
      exists_recorded sound noName surroundings query
    exact ⟨answer, answered⟩
  · intro name
    constructor
    · rintro ⟨fault, failed⟩ member
      obtain ⟨answer, answered⟩ := answersKnown name member
      rw [failed] at answered
      cases answered
    · intro absent
      exact ⟨_, by rw [execute_of_not_mem absent]⟩
  · intro name absent
    rw [execute_of_not_mem absent]
  · intro target answer answered
    by_cases known : ∀ name, target = .store name →
        name ∈ mediator.registry.names
    · obtain ⟨other, records, isOther, recorded⟩ :=
        exists_recorded sound known surroundings query
      rw [answered] at isOther
      cases isOther
      exact ⟨records, recorded⟩
    · push Not at known
      obtain ⟨name, rfl, absent⟩ := known
      rw [execute_of_not_mem absent] at answered
      cases answered

/-- Two stores with the same entry. -/
def twinStores : List Store :=
  ["left", "right"].map fun name =>
    .ofBackend (.single name .keyValue)
      (.keyValue (.ofList [("key", .integer 1)]))

/-- A mediator that compares its two stores. -/
def twins : Mediator where
  settings := { Settings.standard with compareWhileExploring := true }
  registry := ⟨twinStores⟩
  history := .inMemory
    (.empty Settings.standard.windowCapacity
      Settings.standard.confidenceSaturation) Settings.standard.historyLimit
  directory := .fresh

theorem reachable_twins : twins.Reachable := by
  have noFault : twins.settings.fault? = none :=
    Option.isNone_iff_eq_none.mp (by decide +kernel)
  have registered : Registry.ofList twinStores = .ok ⟨twinStores⟩ := rfl
  have steady : ∀ store ∈ twinStores, store.Steady := by
    simp [twinStores, Store.Steady, Store.ofBackend, Backend.Steady]
  have created : create twins.settings ⟨twinStores⟩ .fresh = .ok twins := by
    rw [create, noFault]
    rfl
  exact .created registered steady created

theorem execute_records_once_twins :
    let surroundings : Surroundings :=
      ⟨⟨10, 0⟩, fun place => ⟨place⟩, fun _ => ⟨1.0, 0.0, 0.0⟩⟩
    (∃ answer records,
      (twins.execute surroundings "GET key" .automatic).2 = .answered answer ∧
        twins.Recorded "GET key" .automatic answer
          (twins.execute surroundings "GET key" .automatic).1 records) ∧
    (∃ answer, (twins.execute surroundings "GET key" (.store "right")).2 =
      .answered answer) ∧
    (∃ fault, (twins.execute surroundings "GET key" (.store "third")).2 =
      .failed fault) := by
  intro surroundings
  obtain ⟨⟨answer, answered⟩, refused, known, _, recorded⟩ :=
    execute_records_once reachable_twins surroundings "GET key"
  obtain ⟨records, isRecorded⟩ := recorded .automatic answer answered
  refine ⟨⟨answer, records, answered, isRecorded⟩, ?_, ?_⟩
  · exact known "right" (by decide)
  · exact (refused "third").mpr (by decide)

end Mediator

end Polystore
