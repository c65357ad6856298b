import Polystore.Learning.Model
import Polystore.Routing.Candidate

/-!
# Selection

The one store that a query is routed to, as a function of the located
candidates, the model and the settings.  Among several located candidates the
trusted recommendation of the model wins, then the best score, then key-value
stores before relational before document stores, then registration.
-/

namespace Polystore

/-- How far the learning of a signature has come. -/
inductive LearningState where
  | noHistory
  | exploring
  | exploiting
  | forcedTarget
deriving DecidableEq, Repr, Inhabited

/-- The name under which a state is reported. -/
def LearningState.name : LearningState → String
  | .noHistory => "no_history"
  | .exploring => "exploring"
  | .exploiting => "exploiting"
  | .forcedTarget => "forced_target"

/-- Why a store was selected. -/
inductive SelectionReason where
  | defaultStore
  | onlyCandidate
  | learned (confidence : Float) (samples : Nat)
  | scored
  | forced
deriving Repr, Inhabited

namespace SelectionReason

def json : SelectionReason → Json
  | .defaultStore => .record [("kind", .string "default_store")]
  | .onlyCandidate => .record [("kind", .string "only_candidate")]
  | .learned confidence samples => .record [
      ("kind", .string "learned"),
      ("confidence", .ofFloat confidence),
      ("samples", .integer samples)]
  | .scored => .record [("kind", .string "scored")]
  | .forced => .record [("kind", .string "forced")]

def message : SelectionReason → String
  | .defaultStore => "no store reported the data, using the default store"
  | .onlyCandidate => "only store holding the data"
  | .learned confidence samples =>
    "fastest learned store (" ++ Numeral.wholeFloat confidence
      ++ "% confidence over " ++ toString samples ++ " samples)"
  | .scored => "highest score among stores holding the data"
  | .forced => "store requested explicitly"

end SelectionReason

/-- The store that a query is routed to, and on which grounds. -/
structure Selection where
  store : String
  query : String
  dialect : Dialect
  converted : Bool
  state : LearningState
  reason : SelectionReason
  /-- The scores that were compared. -/
  scores : Keyed Float
  /-- The names of the located candidates. -/
  located : List String
  confidence : Float
deriving Repr, Inhabited

namespace Selection

/-- The explanation of a selection, given the number of samples of the
signature. -/
def explanation (selection : Selection) (samples : Nat) : String :=
  let history :=
    if selection.state == .exploiting then
      "Based on " ++ toString samples ++ " historical executions"
    else "Not enough historical data"
  history ++ "; " ++ selection.store ++ ": " ++ selection.reason.message

def ofCandidate (candidate : Candidate) (state : LearningState)
    (reason : SelectionReason) (scores : Keyed Float) (located : List String)
    (confidence : Float) : Selection where
  store := candidate.name
  query := candidate.query
  dialect := candidate.dialect
  converted := candidate.converted
  state
  reason
  scores
  located
  confidence

/-- The state of learning that a recommendation shows. -/
def stateOf (settings : Settings) : Option Prediction → LearningState
  | none => .noHistory
  | some prediction =>
    if prediction.confidence ≥ settings.confidenceThreshold then .exploiting
    else .exploring

/-- The learned score of a candidate, or the prior of its store's primary
dialect. -/
def candidateScore (settings : Settings) (model : Model) (signature : Signature)
    (candidate : Candidate) : Float :=
  match model.profile? signature candidate.name with
  | some profile => profile.score
  | none => settings.priors.ofDialect candidate.store.primary

/-- The rank of a dialect between equal scores; the least rank goes first. -/
def dialectRank : Dialect → Nat
  | .keyValue => 0
  | .relational => 1
  | .document => 2

/-- The order in which candidates are preferred, given their scores. -/
def compareCandidates (registry : Registry) (scores : Keyed Float)
    (left right : Candidate) : Ordering :=
  let score (candidate : Candidate) := (scores.get? candidate.name).getD 0.0
  (Model.compareScores (score right) (score left)).then <|
    (compare (dialectRank left.store.primary)
      (dialectRank right.store.primary)).then <|
      compare (left.position registry) (right.position registry)

/-- The most preferred candidate, the earlier one of equals. -/
def preferred (registry : Registry) (scores : Keyed Float) (first : Candidate)
    (rest : List Candidate) : Candidate :=
  rest.foldl (fun best next =>
    if compareCandidates registry scores best next == .gt then next
    else best) first

/-- The candidate that the model recommends, when its recommendation is
trusted. -/
def trusted? (state : LearningState) (prediction : Option Prediction)
    (located : List Candidate) : Option (Candidate × Prediction) := do
  let prediction ← prediction
  let candidate ←
    located.find? fun candidate => candidate.name == prediction.store
  if state == .exploiting then some (candidate, prediction) else none

/-- The store for a query, given the candidates that were located. -/
def select (settings : Settings) (registry : Registry) (model : Model)
    (query : String) (dialect : Dialect) (located : List Candidate) :
    Except Fault Selection :=
  let signature := Signature.ofQuery query
  let prediction := model.predict? signature
  let state := stateOf settings prediction
  let confidence := (prediction.map (·.confidence)).getD 0.0
  let names := located.map Candidate.name
  match located with
  | [] =>
    let default? := settings.defaultStores.ofDialect dialect
    (registry.defaultFor dialect default?).map fun store =>
      ofCandidate (.forStore settings registry query dialect store) state
        .defaultStore [] names confidence
  | [only] => .ok (ofCandidate only state .onlyCandidate [] names confidence)
  | first :: rest =>
    let scores : Keyed Float := .ofList (located.map fun candidate =>
      (candidate.name, candidateScore settings model signature candidate))
    match trusted? state prediction located with
    | some (candidate, prediction) =>
      .ok (ofCandidate candidate state
        (.learned prediction.confidence prediction.samples) scores names
        confidence)
    | none =>
      .ok (ofCandidate (preferred registry scores first rest) state .scored
        scores names confidence)

/-- The selection of a store that the caller names; it has to be registered. -/
def forced (settings : Settings) (registry : Registry) (query : String)
    (dialect : Dialect) (name : String) : Except Fault Selection :=
  (registry.get name).map fun store =>
    ofCandidate (.forStore settings registry query dialect store) .forcedTarget
      .forced [] [] 0.0

end Selection

end Polystore
