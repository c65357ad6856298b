import Polystore.History.Directory
import Polystore.History.Filter
import Polystore.History.Statistics

/-!
# The history

The retained records and the model learned from them, with a data directory
behind them or in memory only.  Every appended record is observed once.  The log
is written with every append and the profiles from time to time, so after an
interruption the profiles are caught up from the log.  When the directory fails,
the history goes on in memory and does not touch the directory again.
-/

namespace Polystore

/-- The records of the past and what was learned from them. -/
structure History where
  /-- The retained records, oldest first. -/
  records : List ExecutionRecord
  model : Model
  limit : Nat
  /-- There is a data directory. -/
  attached : Bool
  /-- The data directory has failed. -/
  degraded : Bool
  /-- The number of records observed since the profiles were last saved. -/
  unsaved : Nat
deriving DecidableEq, Inhabited

namespace History

/-- The profiles are saved when this many records have been observed since the
last time. -/
def saveInterval : Nat := 64

def inMemory (model : Model) (limit : Nat) : History :=
  ⟨[], model, max limit 1, false, false, 0⟩

/-- The record is later than every sample of its signature and store. -/
def isNews (model : Model) (record : ExecutionRecord) : Bool :=
  match model.latestSampleAt? record.signature record.store with
  | none => true
  | some latest => latest.lt record.timestamp

/-- The model with the samples of records added. -/
def observeAll (model : Model) (records : List ExecutionRecord) : Model :=
  records.foldl (fun model record =>
    model.observe record.signature record.store record.sample) model

/-- The model that saved profiles give, or one without profiles when they cannot
be read. -/
def restored (model : Model) (profiles : ProfileFile) : Model :=
  match profiles.load with
  | .ok document => model.restore document
  | .error _ => model.clear

/-- The history whose directory cannot be used. -/
def degradedFrom (model : Model) (limit : Nat) : History :=
  { inMemory model limit with degraded := true }

/-- The history kept in a directory, and the directory after it was opened.  Of
the retained records, those that the saved profiles have not seen yet are
observed. -/
def openIn (directory : DataDirectory) (model : Model) (limit : Nat) :
    History × DataDirectory :=
  match directory.log.opened with
  | .error _ => (degradedFrom model limit, directory)
  | .ok log =>
    let directory := { directory with log }
    match log.load (max limit 1) with
    | .error _ => (degradedFrom model limit, directory)
    | .ok records =>
      let known := restored model directory.profiles
      let news := records.filter (isNews known)
      ({ records
         model := observeAll known news
         limit := max limit 1
         attached := true
         degraded := false
         unsaved := news.length }, directory)

/-- The directory is there and has not failed. -/
def isPersistent (history : History) : Bool :=
  history.attached && !history.degraded

/-- The history after its directory has failed. -/
def degrade (history : History) : History :=
  { history with degraded := true }

/-- Saves the profiles.  A failure leaves the history degraded. -/
def saveProfiles (history : History) (directory : DataDirectory) :
    History × DataDirectory × Except Fault Unit :=
  let history := { history with unsaved := 0 }
  match directory.profiles.save history.model.snapshot with
  | .ok profiles => (history, { directory with profiles }, .ok ())
  | .error fault => (history.degrade, directory, .error fault)

/-- First step of an append: the samples of the records are learned. -/
def learn (history : History) (records : List ExecutionRecord) : History :=
  { history with model := observeAll history.model records }

/-- Second step of an append: the records are written to the log, and the
profiles when due. -/
def writeLog (history : History) (directory : DataDirectory)
    (records : List ExecutionRecord) : History × DataDirectory :=
  if history.isPersistent then
    match directory.log.append records history.limit with
    | .error _ => (history.degrade, directory)
    | .ok log =>
      let history :=
        { history with unsaved := history.unsaved + records.length }
      let directory := { directory with log }
      if saveInterval ≤ history.unsaved then
        let (history, directory, _) := history.saveProfiles directory
        (history, directory)
      else (history, directory)
  else (history, directory)

/-- Third step of an append: the records are retained, up to the limit. -/
def retain (history : History) (records : List ExecutionRecord) : History :=
  let records := history.records ++ records
  { history with records := records.drop (records.length - history.limit) }

def append (history : History) (directory : DataDirectory)
    (records : List ExecutionRecord) : History × DataDirectory :=
  if records.isEmpty then (history, directory)
  else
    let (history, directory) :=
      (history.learn records).writeLog directory records
    (history.retain records, directory)

/-- Saves the profiles when records have been observed since they were last
saved. -/
def flush (history : History) (directory : DataDirectory) :
    History × DataDirectory × Except Fault Unit :=
  if history.isPersistent && 0 < history.unsaved then
    history.saveProfiles directory
  else (history, directory, .ok ())

/-- The directory without log rows and profiles; a fault comes with how far it
got. -/
def clearDirectory (directory : DataDirectory) :
    DataDirectory × Except Fault Unit :=
  match directory.log.clear with
  | .error fault => (directory, .error fault)
  | .ok log =>
    let directory := { directory with log }
    match directory.profiles.remove with
    | .error fault => (directory, .error fault)
    | .ok profiles => ({ directory with profiles }, .ok ())

/-- Forgets all records and everything learned. -/
def clear (history : History) (directory : DataDirectory) :
    History × DataDirectory :=
  let history := { history with records := [], model := history.model.clear }
  if history.isPersistent then
    let history := { history with unsaved := 0 }
    match clearDirectory directory with
    | (directory, .ok _) => (history, directory)
    | (directory, .error _) => (history.degrade, directory)
  else (history, directory)

/-- The directory that is left when the history is closed in good order. -/
def close (history : History) (directory : DataDirectory) : DataDirectory :=
  (history.flush directory).2.1

/-- The wanted records, newest first. -/
def query (history : History) (filter : RecordFilter) : List ExecutionRecord :=
  let wanted := history.records.reverse.filter filter.accepts
  match filter.limit with
  | none => wanted
  | some limit => wanted.take limit

/-- The statistics of the wanted records; the limit of the filter does not
matter. -/
def statistics (history : History) (filter : RecordFilter) : Statistics :=
  .ofRecords (history.records.filter filter.accepts)

def size (history : History) : Nat :=
  history.records.length

end History

end Polystore
