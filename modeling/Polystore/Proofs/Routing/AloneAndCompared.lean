import Polystore.Proofs.Routing.Renditions

/-!
# A store alone and beside others

A candidate's store is run alone when the caller names it, and beside the other
candidates when all are compared.  It answers the same both times and leaves
the same outcome, unless its code crashes.  Beside others the crash is a failure
of the store; alone it leaves the caller without an answer and the history
without a record.
-/

namespace Polystore

def QueryResult.outcome (result : QueryResult) : Outcome :=
  ⟨result.success, result.error, result.rowCount⟩

/-- Two results of the same store for the same text say the same. -/
structure QueryResult.Agrees (left right : QueryResult) : Prop
    extends left.SameAnswer right where
  store : left.store = right.store
  executedQuery : left.executedQuery = right.executedQuery
  dialect : left.dialect = right.dialect
  convertedQuery : left.convertedQuery = right.convertedQuery

theorem QueryResult.Agrees.outcome_eq {left right : QueryResult}
    (agrees : left.Agrees right) : left.outcome = right.outcome := by
  rw [outcome, outcome, agrees.success, agrees.error, agrees.rowCount]

theorem Candidate.agrees_outcome (candidate : Candidate)
    (metrics other : Metrics) (reply : Reply Response) :
    (candidate.outcome metrics reply).Agrees
      (candidate.outcome other reply) := by
  have describes := candidate.describes_outcome metrics reply
  have otherDescribes := candidate.describes_outcome other reply
  constructor
  · exact candidate.sameAnswer_outcome metrics other reply
  · exact describes.store.trans otherDescribes.store.symm
  · exact describes.query.trans otherDescribes.query.symm
  · exact describes.dialect.trans otherDescribes.dialect.symm
  · exact describes.converted.trans otherDescribes.converted.symm

variable {settings : Settings} {registry : Registry} {query : String}
  {dialect : Dialect} {candidate : Candidate}

theorem Candidate.forStore_of_mem {store : Store}
    (distinct : registry.names.Nodup)
    (member : candidate ∈ all settings registry query dialect)
    (named : candidate.name = store.name) :
    forStore settings registry query dialect store = candidate := by
  have distinctNames := nodup_all distinct settings query dialect
  rw [forStore, (find?_eq_some_iff distinctNames).mpr ⟨member, named⟩]
  rfl

/-- The selection of a candidate that the caller names. -/
def Selection.ofForced (candidate : Candidate) : Selection :=
  ofCandidate candidate .forcedTarget .forced [] [] 0.0

theorem Selection.forced_of_candidate (distinct : registry.names.Nodup)
    (member : candidate ∈ Candidate.all settings registry query dialect) :
    forced settings registry query dialect candidate.name =
      .ok (ofForced candidate) := by
  obtain ⟨store, found⟩ :=
    Registry.exists_find? (Candidate.name_mem_of_mem_all member)
  have named := (Registry.find?_eq_some found).2
  have isCandidate := Candidate.forStore_of_mem distinct member named.symm
  rw [forced, Registry.get, found]
  exact congrArg (fun candidate => Except.ok (ofForced candidate)) isCandidate

namespace Mediator

variable {mediator : Mediator}

theorem execute_store_eq (distinct : mediator.registry.names.Nodup)
    (member : candidate ∈ mediator.candidates query)
    (surroundings : Surroundings) :
    mediator.execute surroundings query (.store candidate.name) =
      mediator.runSelected surroundings query (.store candidate.name)
        (.ofForced candidate) := by
  have isForced := Selection.forced_of_candidate distinct member
  have notExplores : mediator.explores (.ofForced candidate) = false := by
    simp [explores, Selection.ofForced, Selection.ofCandidate]
  rw [execute, choose, isForced]
  simp only [notExplores, Bool.false_eq_true, if_false]

theorem exists_store_of_candidate
    (member : candidate ∈ mediator.candidates query) :
    ∃ store, mediator.registry.find? candidate.name = some store ∧
      candidate.reply mediator.settings.storeTimeoutMs mediator.registry =
        (store.executeWithin mediator.settings.storeTimeoutMs
          candidate.query).2 := by
  obtain ⟨store, found⟩ :=
    Registry.exists_find? (Candidate.name_mem_of_mem_all member)
  exact ⟨store, found, by rw [Candidate.reply, found]⟩

theorem execute_of_crashed (distinct : mediator.registry.names.Nodup)
    (member : candidate ∈ mediator.candidates query)
    (crashes : candidate.reply mediator.settings.storeTimeoutMs
      mediator.registry = .crashed) (surroundings : Surroundings) :
    mediator.execute surroundings query (.store candidate.name) =
      (mediator.contacted [candidate.contact], .crashed) := by
  obtain ⟨store, found, isReply⟩ := exists_store_of_candidate member
  rw [execute_store_eq distinct member]
  exact runSelected_of_crashed (.ofForced candidate) found
    (isReply.symm.trans crashes) surroundings query (.store candidate.name)

theorem execute_of_not_crashed (distinct : mediator.registry.names.Nodup)
    (member : candidate ∈ mediator.candidates query)
    (ends : candidate.reply mediator.settings.storeTimeoutMs
      mediator.registry ≠ .crashed) (surroundings : Surroundings) :
    ∃ metrics answer,
      answer.result = candidate.outcome metrics (candidate.reply
        mediator.settings.storeTimeoutMs mediator.registry) ∧
      mediator.execute surroundings query (.store candidate.name) =
        (mediator.appending [candidate.contact]
          [.ofResult (surroundings.ids 0) surroundings.now query .forced
            answer.result], .answered answer) := by
  obtain ⟨store, found, isReply⟩ := exists_store_of_candidate member
  obtain ⟨measurement, isMeasured⟩ := Measurement.exists_ofReply? ends
    (.ofReadings mediator.settings.latencyRatio (surroundings.meter store))
  have isOutcome : candidate.outcome (.ofReadings
      mediator.settings.latencyRatio (surroundings.meter store))
        (candidate.reply mediator.settings.storeTimeoutMs
          mediator.registry) = candidate.result measurement := by
    rw [Candidate.outcome, isMeasured]
    rfl
  let after := mediator.appending [candidate.contact]
    [.ofResult (surroundings.ids 0) surroundings.now query .forced
      (candidate.result measurement)]
  refine ⟨_, after.answer query (.ofForced candidate)
    (candidate.result measurement) (surroundings.ids 0) [], isOutcome.symm, ?_⟩
  rw [isReply] at isMeasured
  rw [execute_store_eq distinct member]
  exact runSelected_of_measured (.ofForced candidate) found isMeasured query
    (.store candidate.name)

theorem executeAll_of_mem (distinct : mediator.registry.names.Nodup)
    (member : candidate ∈ mediator.candidates query)
    (surroundings : Surroundings) :
    ∃ results metrics,
      candidate.outcome metrics (candidate.reply
        mediator.settings.storeTimeoutMs mediator.registry) ∈ results ∧
      results.map (·.store) =
        (mediator.candidates query).map Candidate.name ∧
      mediator.executeAll surroundings query =
        (mediator.appending
          ((mediator.candidates query).map Candidate.contact)
          (recordsOf surroundings query (fun _ => .comparison) results),
          .ok results) := by
  have distinctNames :
      ((mediator.candidates query).map Candidate.name).Nodup :=
    Candidate.nodup_all distinct _ _ _
  have describe := FanOut.describes_run mediator.recorder surroundings.meter
    mediator.registry (mediator.candidates query)
  obtain ⟨place, here⟩ := List.mem_iff_getElem?.mp member
  -- The run is the course in which one candidate is asked after the other.
  let course := FanOut.Course.inTurn mediator.recorder
    (fun _ => surroundings.meter) mediator.registry
    (List.range (mediator.candidates query).length) (.refl _)
  obtain ⟨metrics, isResult⟩ := course.results_at here
  rw [course.reply_of_nodup here distinctNames,
    FanOut.Course.results_inTurn] at isResult
  exact ⟨_, metrics, List.mem_of_getElem? isResult,
    FanOut.stores_of_describes describe,
    executeAll_eq (List.ne_nil_of_mem member) surroundings⟩

/-- A record with the store and the outcome of a result was appended. -/
def Records (before after : Mediator) (result : QueryResult) : Prop :=
  ∃ records, (after.history, after.directory) =
      before.history.append before.directory records ∧
    ∃ record ∈ records, record.store = result.store ∧
      record.outcome = result.outcome

theorem records_appending {contacts : List Contact}
    {records : List ExecutionRecord} {record : ExecutionRecord}
    {result : QueryResult} (member : record ∈ records)
    (store : record.store = result.store)
    (outcome : record.outcome = result.outcome) :
    mediator.Records (mediator.appending contacts records) result :=
  ⟨records, rfl, record, member, store, outcome⟩

/-- A candidate that is run alone agrees with its result beside the others and
leaves the same outcome, unless its store crashes. -/
theorem execute_agrees_unless_crashed
    (distinct : mediator.registry.names.Nodup)
    (member : candidate ∈ mediator.candidates query)
    (surroundings otherSurroundings : Surroundings) :
    let alone := mediator.execute surroundings query (.store candidate.name)
    let compared := mediator.executeAll otherSurroundings query
    ∃ results, compared.2 = .ok results ∧ (results.map (·.store)).Nodup ∧
      ∃ entry ∈ results, entry.store = candidate.name ∧
        mediator.Records compared.1 entry ∧
        (candidate.reply mediator.settings.storeTimeoutMs
            mediator.registry ≠ .crashed →
          ∃ answer, alone.2 = .answered answer ∧
            answer.result.Agrees entry ∧ mediator.Records alone.1 entry) ∧
        (candidate.reply mediator.settings.storeTimeoutMs
            mediator.registry = .crashed →
          alone.2 = .crashed ∧ alone.1.history = mediator.history ∧
            alone.1.directory = mediator.directory ∧
            entry = candidate.unfinished) := by
  obtain ⟨results, metrics, inResults, stores, isCompared⟩ :=
    executeAll_of_mem distinct member otherSurroundings
  rw [isCompared]
  refine ⟨results, rfl, ?_, _, inResults,
    (candidate.describes_outcome metrics _).store, ?_, ?_, ?_⟩
  · rw [stores]
    exact Candidate.nodup_all distinct _ _ _
  · obtain ⟨place, here⟩ := List.mem_iff_getElem?.mp inResults
    exact records_appending (mem_recordsOf_iff.mpr ⟨_, place, here, rfl⟩)
      rfl rfl
  · intro ends
    obtain ⟨otherMetrics, answer, isResult, isAlone⟩ :=
      execute_of_not_crashed distinct member ends surroundings
    have agrees := candidate.agrees_outcome otherMetrics metrics
      (candidate.reply mediator.settings.storeTimeoutMs mediator.registry)
    rw [← isResult] at agrees
    rw [isAlone]
    exact ⟨answer, rfl, agrees, records_appending (List.mem_singleton_self _)
      agrees.store agrees.outcome_eq⟩
  · intro crashes
    rw [execute_of_crashed distinct member crashes surroundings, crashes]
    exact ⟨rfl, rfl, rfl, rfl⟩

/-- A mediator over a store that crashes and one that does not. -/
def halfBroken : Mediator where
  settings := .standard
  registry := ⟨[
    .ofBackend (.single "broken" .keyValue) (.scripted
      ⟨fun _ _ => .crashed, fun _ _ => .answered true, none⟩),
    .ofBackend (.single "sound" .keyValue)
      (.keyValue (.ofList [("k", .integer 1)]))]⟩
  history := .inMemory
    (.empty Settings.standard.windowCapacity
      Settings.standard.confidenceSaturation) Settings.standard.historyLimit
  directory := .fresh

theorem mem_candidates_halfBroken {name : String}
    (member : name ∈ ["broken", "sound"]) :
    ⟨.single name .keyValue, "GET k", .keyValue, false⟩ ∈
      halfBroken.candidates "GET k" := by
  rw [candidates, Candidate.all, List.mem_mergeSort]
  revert name
  decide +kernel

/-- A store that does not crash answers as it does beside one that does. -/
theorem execute_agrees_unless_crashed_sound :
    let surroundings : Surroundings :=
      ⟨⟨10, 0⟩, fun place => ⟨place⟩, fun _ => ⟨1.0, 0.0, 0.0⟩⟩
    ∃ results entry answer,
      (halfBroken.executeAll surroundings "GET k").2 = .ok results ∧
      entry ∈ results ∧ entry.store = "sound" ∧
      (halfBroken.execute surroundings "GET k" (.store "sound")).2 =
        .answered answer ∧
      answer.result.Agrees entry := by
  intro surroundings
  let sound : Candidate :=
    ⟨.single "sound" .keyValue, "GET k", .keyValue, false⟩
  have distinct : halfBroken.registry.names.Nodup := by decide
  have member : sound ∈ halfBroken.candidates "GET k" :=
    mem_candidates_halfBroken (by simp)
  have ends : sound.reply halfBroken.settings.storeTimeoutMs
      halfBroken.registry ≠ .crashed := by
    rintro ⟨⟩
  obtain ⟨results, areResults, _, entry, inResults, isStore, _, agrees, _⟩ :=
    execute_agrees_unless_crashed distinct member surroundings surroundings
  obtain ⟨answer, answered, isAgreeing, _⟩ := agrees ends
  exact ⟨results, entry, answer, areResults, inResults, isStore, answered,
    isAgreeing⟩

/-- Alone, a crash leaves neither an answer nor a record. -/
theorem execute_crashes_alone :
    let surroundings : Surroundings :=
      ⟨⟨10, 0⟩, fun place => ⟨place⟩, fun _ => ⟨1.0, 0.0, 0.0⟩⟩
    let alone := halfBroken.execute surroundings "GET k" (.store "broken")
    let compared := halfBroken.executeAll surroundings "GET k"
    alone.2 = .crashed ∧ alone.1.history.records = [] ∧
    ∃ results entry, compared.2 = .ok results ∧ entry ∈ results ∧
      entry.store = "broken" ∧
      entry.error = some
        "Store execution error: 'broken' did not complete the query" ∧
      halfBroken.Records compared.1 entry := by
  intro surroundings
  let broken : Candidate :=
    ⟨.single "broken" .keyValue, "GET k", .keyValue, false⟩
  have distinct : halfBroken.registry.names.Nodup := by decide
  have member : broken ∈ halfBroken.candidates "GET k" :=
    mem_candidates_halfBroken (by simp)
  have crashes : broken.reply halfBroken.settings.storeTimeoutMs
      halfBroken.registry = .crashed := rfl
  have isAlone := execute_of_crashed distinct member crashes surroundings
  obtain ⟨results, metrics, inResults, _, isCompared⟩ :=
    executeAll_of_mem distinct member surroundings
  obtain ⟨place, here⟩ := List.mem_iff_getElem?.mp inResults
  rw [show halfBroken.execute surroundings "GET k" (.store "broken") = _ from
    isAlone, isCompared]
  refine ⟨rfl, rfl, results, _, rfl, inResults, rfl, ?_, ?_⟩
  · rw [crashes]
    rfl
  · exact records_appending (mem_recordsOf_iff.mpr ⟨_, place, here, rfl⟩)
      rfl rfl

end Mediator

end Polystore
