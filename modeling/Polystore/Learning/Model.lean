import Polystore.Learning.Profile
import Polystore.Query.Signature

/-!
# The learned model

One profile for every signature and store that was observed together.  An index
beside the profiles lists the stores of each signature, and whatever is told
about a signature is found through it.  The model recommends the store with the
best score; between equal scores more samples count, then the smaller name.
-/

namespace Polystore

/-- Profiles by signature and store, as they are saved. -/
abbrev ProfileDocument := Keyed (Keyed Profile)

/-- Names of stores by signature. -/
abbrev StoreIndex := Keyed (Keyed Unit)

/-- What is recommended for a signature, and on which grounds. -/
structure Prediction where
  signature : Signature
  store : String
  confidence : Float
  expectedTime : Float
  scores : Keyed Float
  samples : Nat
deriving Repr, Inhabited

/-- The profiles of all signatures, with the sizes that new and restored
profiles get. -/
structure Model where
  profiles : ProfileDocument
  /-- The stores that have a profile. -/
  index : StoreIndex
  capacity : Nat
  saturation : Nat
deriving DecidableEq, Repr, Inhabited

namespace Model

def empty (capacity saturation : Nat) : Model :=
  ⟨[], [], capacity, saturation⟩

def storesOf (model : Model) (signature : Signature) : Keyed Profile :=
  (model.profiles.get? signature.text).getD []

def profile? (model : Model) (signature : Signature) (store : String) :
    Option Profile :=
  (model.storesOf signature).get? store

def listed (model : Model) (signature : Signature) : Keyed Unit :=
  (model.index.get? signature.text).getD []

def setProfile (model : Model) (signature : Signature) (store : String)
    (profile : Profile) : Model :=
  let stores := (model.storesOf signature).insert store profile
  { model with profiles := model.profiles.insert signature.text stores }

/-- The model with a store listed for a signature. -/
def enlist (model : Model) (signature : Signature) (store : String) : Model :=
  let stores := (model.listed signature).insert store ()
  { model with index := model.index.insert signature.text stores }

/-- The model with one more sample; the first sample of a pair creates its
profile. -/
def observe (model : Model) (signature : Signature) (store : String)
    (sample : Sample) : Model :=
  let profile := (model.profile? signature store).getD
    (.empty store model.capacity sample.timestamp)
  let observed := profile.observe sample model.saturation
  (model.setProfile signature store observed).enlist signature store

/-- The profiles of a signature in the order of the stores' names. -/
def profilesFor (model : Model) (signature : Signature) : List Profile :=
  (model.listed signature).keys.filterMap (model.profile? signature)

/-- The learned score of each store that has a profile for the signature. -/
def scores (model : Model) (signature : Signature) : Keyed Float :=
  .ofList ((model.profilesFor signature).map fun profile =>
    (profile.store, profile.score))

def sampleCount (model : Model) (signature : Signature) : Nat :=
  (model.profilesFor signature).foldl
    (fun total profile => total + profile.samples) 0

/-- The time of the newest sample of a signature on a store. -/
def latestSampleAt? (model : Model) (signature : Signature) (store : String) :
    Option Instant :=
  (model.profile? signature store).bind Profile.latestSampleAt?

/-- The order of scores; what is no number is equal to everything. -/
def compareScores (left right : Float) : Ordering :=
  if left < right then .lt else if left > right then .gt else .eq

/-- How strongly two profiles recommend their stores. -/
def compareProfiles (left right : Profile) : Ordering :=
  (compareScores left.score right.score).then <|
    (compare left.samples right.samples).then <|
      if right.store < left.store then .lt
      else if left.store < right.store then .gt
      else .eq

/-- The profile that recommends its store most strongly, the later one of
equals. -/
def best? : List Profile → Option Profile
  | [] => none
  | first :: rest =>
    some <| rest.foldl (fun best next =>
      if compareProfiles best next == .gt then best else next) first

/-- The recommendation for a signature; there is none without profiles. -/
def predict? (model : Model) (signature : Signature) : Option Prediction :=
  let profiles := model.profilesFor signature
  (best? profiles).map fun best =>
    { signature
      store := best.store
      confidence := best.confidence
      expectedTime := best.summary.executionTime.mean
      scores :=
        .ofList (profiles.map fun profile => (profile.store, profile.score))
      samples := best.samples }

def isEmpty (model : Model) : Bool :=
  model.profiles.isEmpty

def clear (model : Model) : Model :=
  { model with profiles := [], index := [] }

/-- All profiles in the form in which they are saved. -/
def snapshot (model : Model) : ProfileDocument :=
  model.profiles

/-- A saved profile under its store's name, cut to the model's sizes and
recomputed. -/
def adopt (model : Model) (store : String) (profile : Profile) : Profile :=
  { profile with store, window := profile.window.resize model.capacity }
    |>.recompute model.saturation

/-- The model with one saved profile taken over. -/
def restoreOne (model : Model) (signature : Signature) (store : String)
    (profile : Profile) : Model :=
  (model.enlist signature store).setProfile signature store
    (model.adopt store profile)

/-- The model with the saved profiles of a signature taken over. -/
def restoreStores (model : Model) (signature : Signature)
    (stores : Keyed Profile) : Model :=
  stores.foldl (fun model (store, profile) =>
    model.restoreOne signature store profile) model

/-- The model with all saved profiles taken over. -/
def restoreAll (model : Model) (document : ProfileDocument) : Model :=
  document.foldl (fun model (signature, stores) =>
    model.restoreStores ⟨signature⟩ stores) model

/-- The model with its profiles replaced by saved ones. -/
def restore (model : Model) (document : ProfileDocument) : Model :=
  model.clear.restoreAll document

end Model

namespace ProfileDocument

def decode (tree : Written) : Option ProfileDocument :=
  tree.keyed? (Written.keyed? Profile.decode)

def json (document : ProfileDocument) : Json :=
  .object (document.mapValues fun stores =>
    .object (stores.mapValues Profile.json))

end ProfileDocument

end Polystore
