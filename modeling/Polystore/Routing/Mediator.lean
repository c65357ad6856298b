import Polystore.History.Store
import Polystore.Routing.FanOut
import Polystore.Routing.Location
import Polystore.Routing.Selection

/-!
# The mediator

A query is routed to one store, run there, and recorded with its cost, so that
later queries of its signature go where they are answered best.  The caller may
also name the store, or have all candidates run for comparison.  A store that is
asked to run a query is asked once, and leaves one record.
-/

namespace Polystore

/-- Where a query should run. -/
inductive Target where
  | automatic
  | store (name : String)
deriving DecidableEq, Repr, Inhabited

/-- The target of a caller who may or may not name a store. -/
def Target.ofOption : Option String → Target
  | none => .automatic
  | some name => .store name

/-- The origin of the records that a target leads to. -/
def Target.origin : Target → Origin
  | .automatic => .routed
  | .store _ => .forced

/-- What one operation of the mediator takes from the world around it. -/
structure Surroundings where
  now : Instant
  /-- Identifiers that no record has yet. -/
  ids : Nat → RecordId
  /-- What the gauges show when a store has run a query. -/
  meter : Store → Readings

/-- The store to which a query would be routed. -/
structure Recommendation where
  signature : Signature
  dialect : Dialect
  store : String
  executedQuery : String
  confidence : Float
  reason : String
  state : LearningState
  scores : Keyed Float
  expectedTime : Option Float
  located : List String
  samples : Nat
deriving Repr, Inhabited

namespace Recommendation

/-- A recommendation as a document value; without scores or expectation it has
no such fields. -/
def json (recommendation : Recommendation) : Json :=
  .record <| [
    ("signature", .string recommendation.signature.text),
    ("dialect", .string recommendation.dialect.name),
    ("recommendation", .string recommendation.store),
    ("executed_query", .string recommendation.executedQuery),
    ("confidence", .ofFloat recommendation.confidence),
    ("reason", .string recommendation.reason),
    ("state", .string recommendation.state.name),
    ("located", .array (recommendation.located.map .string)),
    ("samples", .integer recommendation.samples)]
      ++ (if recommendation.scores.isEmpty then []
        else
          [("scores", Json.object (recommendation.scores.mapValues .ofFloat))])
      ++ (recommendation.expectedTime.map fun time =>
        ("expected_execution_time_ms", Json.ofFloat time)).toList

end Recommendation

structure Answer where
  result : QueryResult
  signature : Signature
  recordId : RecordId
  state : LearningState
  reason : String
  located : List String
  comparedWith : List String
deriving Repr

namespace Answer

/-- An answer as a document value; the compared stores only where there are
some. -/
def json (answer : Answer) : Json :=
  .record <| answer.result.fields ++ [
    ("signature", .string answer.signature.text),
    ("record_id", .string answer.recordId.text),
    ("state", .string answer.state.name),
    ("reason", .string answer.reason),
    ("located", .array (answer.located.map .string))]
      ++ (if answer.comparedWith.isEmpty then []
        else [("compared_with", Json.array (answer.comparedWith.map .string))])

end Answer

/-- The mediator's state: its stores, its history, and the directory behind the
history. -/
structure Mediator where
  settings : Settings
  registry : Registry
  history : History
  directory : DataDirectory

namespace Mediator

/-- A mediator over registered stores; a data directory is used when the
settings name one. -/
def create (settings : Settings) (registry : Registry)
    (directory : DataDirectory) : Except Fault Mediator :=
  match settings.fault? with
  | some fault => .error fault.fault
  | none =>
    if registry.stores.isEmpty then .error (.settings "no stores registered")
    else
      let model :=
        Model.empty settings.windowCapacity settings.confidenceSaturation
      let (history, directory) :=
        match settings.dataDirectory with
        | some _ => History.openIn directory model settings.historyLimit
        | none => (History.inMemory model settings.historyLimit, directory)
      .ok ⟨settings, registry, history, directory⟩

def recorder (mediator : Mediator) : Recorder :=
  ⟨mediator.settings.latencyRatio, mediator.settings.storeTimeoutMs⟩

def candidates (mediator : Mediator) (query : String) : List Candidate :=
  Candidate.all mediator.settings mediator.registry query (Query.classify query)

def sampleCount (mediator : Mediator) (query : String) : Nat :=
  mediator.history.model.sampleCount (.ofQuery query)

/-- Locates the data of a query and selects a store for it. -/
def select (mediator : Mediator) (query : String) :
    Mediator × Except Fault Selection :=
  let (registry, located) :=
    Location.locate mediator.settings.storeTimeoutMs mediator.registry
      (mediator.candidates query)
  ({ mediator with registry },
    Selection.select mediator.settings mediator.registry mediator.history.model
      query (Query.classify query) located)

/-- The store to which a query would be routed, without running it. -/
def recommend (mediator : Mediator) (query : String) :
    Mediator × Except Fault Recommendation :=
  let (next, selected) := mediator.select query
  let samples := mediator.sampleCount query
  let signature := Signature.ofQuery query
  (next, selected.map fun selection =>
    { signature
      dialect := Query.classify query
      store := selection.store
      executedQuery := selection.query
      confidence := selection.confidence
      reason := selection.explanation samples
      state := selection.state
      scores := selection.scores
      expectedTime :=
        (mediator.history.model.predict? signature).map (·.expectedTime)
      located := selection.located
      samples })

def record (mediator : Mediator) (records : List ExecutionRecord) : Mediator :=
  let (history, directory) := mediator.history.append mediator.directory records
  { mediator with history, directory }

def choose (mediator : Mediator) (query : String) :
    Target → Mediator × Except Fault Selection
  | .automatic => mediator.select query
  | .store name =>
    (mediator, Selection.forced mediator.settings mediator.registry query
      (Query.classify query) name)

/-- The answer of the selected store, when the history has taken up what
happened. -/
def answer (mediator : Mediator) (query : String) (selection : Selection)
    (result : QueryResult) (recordId : RecordId) (comparedWith : List String) :
    Answer where
  result
  signature := .ofQuery query
  recordId
  state := selection.state
  reason := selection.explanation (mediator.sampleCount query)
  located := selection.located
  comparedWith

/-- All located candidates are run while the learned recommendation is not yet
trusted. -/
def explores (mediator : Mediator) (selection : Selection) : Bool :=
  mediator.settings.compareWhileExploring
    && (selection.state == .noHistory || selection.state == .exploring)
    && 1 < selection.located.length

/-- Runs the selected store alone. -/
def runSelected (mediator : Mediator) (surroundings : Surroundings)
    (query : String) (target : Target) (selection : Selection) :
    Mediator × Reply Answer :=
  match mediator.registry.get selection.store with
  | .error fault => (mediator, .failed fault)
  | .ok store =>
    let (store, measurement) :=
      mediator.recorder.measure surroundings.meter store selection.query
    let mediator := { mediator with registry := mediator.registry.put store }
    match measurement with
    | none => (mediator, .crashed)
    | some measurement =>
      let result := QueryResult.ofMeasurement selection.store selection.query
        selection.dialect selection.converted measurement
      let id := surroundings.ids 0
      let mediator := mediator.record
        [.ofResult id surroundings.now query target.origin result]
      (mediator, .answered (mediator.answer query selection result id []))

/-- The records of results, each with an identifier of its own. -/
def recordsOf (surroundings : Surroundings) (query : String)
    (origin : QueryResult → Origin) (results : List QueryResult) :
    List ExecutionRecord :=
  results.zipIdx.map fun (result, place) =>
    .ofResult (surroundings.ids place) surroundings.now query (origin result)
      result

/-- Runs the located candidates side by side and answers with the selected
one. -/
def explore (mediator : Mediator) (surroundings : Surroundings) (query : String)
    (selection : Selection) : Mediator × Reply Answer :=
  let located := (mediator.candidates query).filter fun candidate =>
    selection.located.contains candidate.name
  let (registry, results) :=
    FanOut.run mediator.recorder surroundings.meter mediator.registry located
  let isSelected (result : QueryResult) := result.store == selection.store
  let mediator := { mediator with registry }.record <|
    recordsOf surroundings query
      (fun result => if isSelected result then .routed else .comparison)
      results
  let comparedWith :=
    (results.filter fun result => !isSelected result).map (·.store)
  match results.zipIdx.reverse.find? fun (result, _) => isSelected result with
  | some (result, place) =>
    (mediator, .answered
      (mediator.answer query selection result (surroundings.ids place)
        comparedWith))
  | none =>
    (mediator, .failed
      (.storeFailed s!"'{selection.store}' missing from exploration"))

/-- Runs a query on the store that is selected for it or that the caller
names. -/
def execute (mediator : Mediator) (surroundings : Surroundings) (query : String)
    (target : Target) : Mediator × Reply Answer :=
  match mediator.choose query target with
  | (mediator, .error fault) => (mediator, .failed fault)
  | (mediator, .ok selection) =>
    if mediator.explores selection then
      mediator.explore surroundings query selection
    else mediator.runSelected surroundings query target selection

/-- Runs a query on all candidates for comparison. -/
def executeAll (mediator : Mediator) (surroundings : Surroundings)
    (query : String) : Mediator × Except Fault (List QueryResult) :=
  let candidates := mediator.candidates query
  if candidates.isEmpty then
    (mediator, .error (.noStore (Query.classify query).name))
  else
    let (registry, results) :=
      FanOut.run mediator.recorder surroundings.meter mediator.registry
        candidates
    let mediator := { mediator with registry }.record <|
      recordsOf surroundings query (fun _ => .comparison) results
    (mediator, .ok results)

/-- The statistics of all records, or of those of one store. -/
def statistics (mediator : Mediator) (store : Option String) : Statistics :=
  mediator.history.statistics { store }

/-- Forgets all records and everything learned. -/
def clear (mediator : Mediator) : Mediator :=
  let (history, directory) := mediator.history.clear mediator.directory
  { mediator with history, directory }

/-- The directory that is left when the mediator is closed in good order. -/
def close (mediator : Mediator) : DataDirectory :=
  mediator.history.close mediator.directory

end Mediator

end Polystore
