import Polystore.Fault
import Polystore.Learning.Profile
import Polystore.Numeral.Binary64
import Polystore.Query.Dialect

/-!
# Settings

How the mediator behaves, from defaults, from named variables or from a
document.  Settings are checked before they are used, and the first fault in the
order of the checks is reported.
-/

namespace Polystore

/-- Scores of stores without history, by their dialect. -/
structure Priors where
  relational : Float
  document : Float
  keyValue : Float
deriving Repr, Inhabited

def Priors.ofDialect (priors : Priors) : Dialect → Float
  | .relational => priors.relational
  | .document => priors.document
  | .keyValue => priors.keyValue

/-- Stores that answer when no store is known to hold the data, by dialect. -/
structure DefaultStores where
  relational : Option String
  document : Option String
  keyValue : Option String
deriving DecidableEq, Repr, Inhabited

def DefaultStores.ofDialect (stores : DefaultStores) : Dialect → Option String
  | .relational => stores.relational
  | .document => stores.document
  | .keyValue => stores.keyValue

/-- How the mediator behaves. -/
structure Settings where
  /-- Where history and profiles are kept; they live in memory only when it is
  absent. -/
  dataDirectory : Option String
  windowCapacity : Nat
  historyLimit : Nat
  /-- The confidence, in percent, from which on the learned store is trusted. -/
  confidenceThreshold : Float
  confidenceSaturation : Nat
  storeTimeoutMs : Nat
  /-- The part of the execution time that is reported as latency. -/
  latencyRatio : Float
  convertForRouting : Bool
  compareWhileExploring : Bool
  priors : Priors
  defaultStores : DefaultStores
deriving Repr

/-- Why settings are refused. -/
inductive SettingsFault where
  | unreadable (name text : String)
  | notTruthValue (name text : String)
  | noWindow
  | noHistory
  | noSaturation
  | threshold (value : Float)
  | noTimeout
  | latencyRatio (value : Float)
  | prior (dialect : Dialect)
deriving Repr

def SettingsFault.message : SettingsFault → String
  | .unreadable name text => s!"{name}: cannot parse '{text}'"
  | .notTruthValue name text => s!"{name}: expected a boolean, got '{text}'"
  | .noWindow => "window_capacity must be at least 1"
  | .noHistory => "history_limit must be at least 1"
  | .noSaturation => "confidence_saturation must be at least 1"
  | .threshold value =>
    "confidence_threshold must be within 0-100, got "
      ++ Numeral.plainFloat value
  | .noTimeout => "store_timeout_ms must be positive"
  | .latencyRatio value =>
    "latency_ratio must be within 0-1, got " ++ Numeral.plainFloat value
  | .prior dialect => s!"prior for {dialect.name} must be a non-negative number"

/-- The fault as it is reported to a caller. -/
def SettingsFault.fault (fault : SettingsFault) : Fault :=
  .settings fault.message

namespace Settings

/-- The priors when nothing else is said. -/
def defaultPriors : Priors := ⟨0.85, 0.75, 0.9⟩

/-- The settings when nothing else is said. -/
def standard : Settings where
  dataDirectory := none
  windowCapacity := Window.defaultCapacity
  historyLimit := 1000
  confidenceThreshold := 30.0
  confidenceSaturation := defaultSaturation
  storeTimeoutMs := 5000
  latencyRatio := 0.3
  convertForRouting := true
  compareWhileExploring := false
  priors := defaultPriors
  defaultStores := ⟨none, none, none⟩

instance : Inhabited Settings := ⟨standard⟩

/-- The value lies between two bounds, and so is a number. -/
def within (low high value : Float) : Bool :=
  low ≤ value && value ≤ high

/-- A prior is finite and not negative. -/
def isPrior (value : Float) : Bool :=
  value.isFinite && !(value < 0.0)

/-- The first fault of the settings. -/
def fault? (settings : Settings) : Option SettingsFault :=
  if settings.windowCapacity == 0 then some .noWindow
  else if settings.historyLimit == 0 then some .noHistory
  else if settings.confidenceSaturation == 0 then some .noSaturation
  else if !within 0.0 100.0 settings.confidenceThreshold then
    some (.threshold settings.confidenceThreshold)
  else if settings.storeTimeoutMs == 0 then some .noTimeout
  else if !within 0.0 1.0 settings.latencyRatio then
    some (.latencyRatio settings.latencyRatio)
  else
    (Dialect.all.find? fun dialect =>
      !isPrior (settings.priors.ofDialect dialect)).map .prior

/-- The settings, provided that they have no fault. -/
def checked (settings : Settings) : Except SettingsFault Settings :=
  match settings.fault? with
  | some fault => .error fault
  | none => .ok settings

/-- The value of each variable that has one. -/
abbrev Environment := String → Option String

/-- The value of a variable that is not blank. -/
def given? (environment : Environment) (name : String) : Option String :=
  (environment name).filter fun text => !(Text.trim text.toList).isEmpty

/-- The value of a variable as read by `read`, or `current` when it is not
set. -/
def overlay {α : Type} (environment : Environment) (name : String) (current : α)
    (read : List Char → Option α) : Except SettingsFault α :=
  match given? environment name with
  | none => .ok current
  | some text =>
    match read (Text.trim text.toList) with
    | some value => .ok value
    | none => .error (.unreadable name text)

def readNatural (cs : List Char) : Option Nat :=
  (Numeral.unsigned? cs).toOption

/-- The truth value of a variable, or `current` when it is not set. -/
def overlayFlag (environment : Environment) (name : String) (current : Bool) :
    Except SettingsFault Bool :=
  match given? environment name with
  | none => .ok current
  | some text =>
    let word := String.ofList ((Text.trim text.toList).map Char.toLower)
    if ["1", "true", "yes", "on"].contains word then .ok true
    else if ["0", "false", "no", "off"].contains word then .ok false
    else .error (.notTruthValue name word)

/-- The names of the variables that give settings. -/
def variableNames : List String := [
  "MEDIATOR_DATA_DIR", "MEDIATOR_WINDOW_CAPACITY", "MEDIATOR_HISTORY_LIMIT",
  "MEDIATOR_CONFIDENCE_THRESHOLD", "MEDIATOR_CONFIDENCE_SATURATION",
  "MEDIATOR_STORE_TIMEOUT_MS", "MEDIATOR_LATENCY_RATIO",
  "MEDIATOR_PRIOR_RELATIONAL", "MEDIATOR_PRIOR_DOCUMENT",
  "MEDIATOR_PRIOR_KEY_VALUE", "MEDIATOR_TRANSLATE_FOR_ROUTING",
  "MEDIATOR_COMPARE_WHILE_EXPLORING", "MEDIATOR_DEFAULT_RELATIONAL_STORE",
  "MEDIATOR_DEFAULT_DOCUMENT_STORE", "MEDIATOR_DEFAULT_KEY_VALUE_STORE"]

/-- The settings that variables give, with defaults for those that are not
set. -/
def ofEnvironment (environment : Environment) :
    Except SettingsFault Settings := do
  let base := standard
  let windowCapacity ←
    overlay environment "MEDIATOR_WINDOW_CAPACITY" base.windowCapacity
      readNatural
  let historyLimit ←
    overlay environment "MEDIATOR_HISTORY_LIMIT" base.historyLimit readNatural
  let confidenceThreshold ←
    overlay environment "MEDIATOR_CONFIDENCE_THRESHOLD"
      base.confidenceThreshold Numeral.float?
  let confidenceSaturation ←
    overlay environment "MEDIATOR_CONFIDENCE_SATURATION"
      base.confidenceSaturation readNatural
  let storeTimeoutMs ←
    overlay environment "MEDIATOR_STORE_TIMEOUT_MS" base.storeTimeoutMs
      readNatural
  let latencyRatio ←
    overlay environment "MEDIATOR_LATENCY_RATIO" base.latencyRatio
      Numeral.float?
  let relational ←
    overlay environment "MEDIATOR_PRIOR_RELATIONAL" base.priors.relational
      Numeral.float?
  let document ←
    overlay environment "MEDIATOR_PRIOR_DOCUMENT" base.priors.document
      Numeral.float?
  let keyValue ←
    overlay environment "MEDIATOR_PRIOR_KEY_VALUE" base.priors.keyValue
      Numeral.float?
  let convertForRouting ←
    overlayFlag environment "MEDIATOR_TRANSLATE_FOR_ROUTING"
      base.convertForRouting
  let compareWhileExploring ←
    overlayFlag environment "MEDIATOR_COMPARE_WHILE_EXPLORING"
      base.compareWhileExploring
  checked {
    dataDirectory := given? environment "MEDIATOR_DATA_DIR"
    windowCapacity, historyLimit, confidenceThreshold, confidenceSaturation
    storeTimeoutMs, latencyRatio, convertForRouting, compareWhileExploring
    priors := ⟨relational, document, keyValue⟩
    defaultStores := {
      relational := given? environment "MEDIATOR_DEFAULT_RELATIONAL_STORE"
      document := given? environment "MEDIATOR_DEFAULT_DOCUMENT_STORE"
      keyValue := given? environment "MEDIATOR_DEFAULT_KEY_VALUE_STORE" } }

def decodePriors (tree : Written) : Option Priors := do
  let members ← tree.members? ["relational", "document", "key_value"]
  let relational ←
    members.withDefault "relational" defaultPriors.relational Written.real?
  let document ←
    members.withDefault "document" defaultPriors.document Written.real?
  let keyValue ←
    members.withDefault "key_value" defaultPriors.keyValue Written.real?
  return ⟨relational, document, keyValue⟩

def decodeDefaultStores (tree : Written) : Option DefaultStores := do
  let store? := Written.optional? Written.text?
  let members ← tree.members? ["relational", "document", "key_value"]
  let relational ← members.withDefault "relational" none store?
  let document ← members.withDefault "document" none store?
  let keyValue ← members.withDefault "key_value" none store?
  return ⟨relational, document, keyValue⟩

/-- Settings in a document, not yet checked; fields that are missing have their
defaults. -/
def decode (tree : Written) : Option Settings := do
  let base := standard
  let members ← tree.members?
    ["data_dir", "window_capacity", "history_limit", "confidence_threshold",
      "confidence_saturation", "store_timeout_ms", "latency_ratio",
      "translate_for_routing", "compare_while_exploring", "priors",
      "default_stores"]
  let dataDirectory ←
    members.withDefault "data_dir" none (Written.optional? Written.text?)
  let windowCapacity ←
    members.withDefault "window_capacity" base.windowCapacity Written.natural?
  let historyLimit ←
    members.withDefault "history_limit" base.historyLimit Written.natural?
  let confidenceThreshold ←
    members.withDefault "confidence_threshold" base.confidenceThreshold
      Written.real?
  let confidenceSaturation ←
    members.withDefault "confidence_saturation" base.confidenceSaturation
      Written.natural?
  let storeTimeoutMs ←
    members.withDefault "store_timeout_ms" base.storeTimeoutMs Written.natural?
  let latencyRatio ←
    members.withDefault "latency_ratio" base.latencyRatio Written.real?
  let convertForRouting ←
    members.withDefault "translate_for_routing" base.convertForRouting
      Written.flag?
  let compareWhileExploring ←
    members.withDefault "compare_while_exploring" base.compareWhileExploring
      Written.flag?
  let priors ← members.withDefault "priors" base.priors decodePriors
  let defaultStores ←
    members.withDefault "default_stores" base.defaultStores decodeDefaultStores
  return {
    dataDirectory, windowCapacity, historyLimit, confidenceThreshold
    confidenceSaturation, storeTimeoutMs, latencyRatio, convertForRouting
    compareWhileExploring, priors, defaultStores }

def json (settings : Settings) : Json :=
  let store := Json.ofOption Json.string
  .record [
    ("data_dir", store settings.dataDirectory),
    ("window_capacity", .integer settings.windowCapacity),
    ("history_limit", .integer settings.historyLimit),
    ("confidence_threshold", .ofFloat settings.confidenceThreshold),
    ("confidence_saturation", .integer settings.confidenceSaturation),
    ("store_timeout_ms", .integer settings.storeTimeoutMs),
    ("latency_ratio", .ofFloat settings.latencyRatio),
    ("translate_for_routing", .bool settings.convertForRouting),
    ("compare_while_exploring", .bool settings.compareWhileExploring),
    ("priors", .record [
      ("relational", .ofFloat settings.priors.relational),
      ("document", .ofFloat settings.priors.document),
      ("key_value", .ofFloat settings.priors.keyValue)]),
    ("default_stores", .record [
      ("relational", store settings.defaultStores.relational),
      ("document", store settings.defaultStores.document),
      ("key_value", store settings.defaultStores.keyValue)])]

/-- The time that a store may take, in seconds. -/
def storeTimeoutSeconds (settings : Settings) : Float :=
  Float.ofNat (settings.storeTimeoutMs / 1000)
    + Float.ofNat (settings.storeTimeoutMs % 1000 * 1000000) / 1000000000.0

end Settings

end Polystore
