import Polystore.Proofs.Learning.Observation

/-!
# Runs of a history

A history changes by appending batches, by being cleared and by being
flushed, each time together with the directory behind it.  Every part of the
directory may refuse to be written during an operation, which is how a
directory fails.  For each operation this file says what it can do to the
history and to the log.
-/

namespace Polystore

/-- A history and the data directory behind it. -/
structure Archive where
  history : History
  directory : DataDirectory

/-- The sizes that a history is opened with. -/
structure Sizes where
  limit : Nat
  capacity : Nat
  saturation : Nat
deriving DecidableEq, Repr

def Sizes.model (sizes : Sizes) : Model :=
  .empty sizes.capacity sizes.saturation

/-- Where a history keeps its records. -/
inductive Medium where
  | memory
  | directory
deriving DecidableEq, Repr

/-- A change of a history. -/
inductive Operation where
  | append (records : List ExecutionRecord)
  | clear
  | flush

/-- The parts of a data directory that cannot be written for a while. -/
structure Outage where
  log : Bool
  profiles : Bool
deriving DecidableEq, Repr

/-- Everything can be written. -/
def Outage.none : Outage := ⟨false, false⟩

namespace DataDirectory

/-- The directory as it is met during an outage. -/
def impaired (outage : Outage) (directory : DataDirectory) : DataDirectory where
  log := if outage.log then .unusable else directory.log
  profiles := if outage.profiles then .directory else directory.profiles

/-- The directory after an outage, during which `met` was made of it. -/
def recovered (outage : Outage) (directory met : DataDirectory) :
    DataDirectory where
  log := if outage.log then directory.log else met.log
  profiles := if outage.profiles then directory.profiles else met.profiles

end DataDirectory

namespace Operation

/-- The records appended since the last time all was cleared. -/
def appendedFrom (appended : List ExecutionRecord) :
    List Operation → List ExecutionRecord
  | [] => appended
  | .append records :: rest => appendedFrom (appended ++ records) rest
  | .clear :: rest => appendedFrom [] rest
  | .flush :: rest => appendedFrom appended rest

/-- The records appended since the last time all was cleared, from the start
on. -/
def appended (operations : List Operation) : List ExecutionRecord :=
  appendedFrom [] operations

end Operation

namespace Archive

/-- A history that starts with nothing: in memory, or in a directory that is
still empty. -/
def start (sizes : Sizes) : Medium → Archive
  | .memory => ⟨.inMemory sizes.model sizes.limit, .fresh⟩
  | .directory =>
    let (history, directory) := History.openIn .fresh sizes.model sizes.limit
    ⟨history, directory⟩

def perform (archive : Archive) : Operation → Archive
  | .append records =>
    let (history, directory) :=
      archive.history.append archive.directory records
    ⟨history, directory⟩
  | .clear =>
    let (history, directory) := archive.history.clear archive.directory
    ⟨history, directory⟩
  | .flush =>
    let (history, directory, _) := archive.history.flush archive.directory
    ⟨history, directory⟩

/-- One operation while parts of the directory cannot be written. -/
def performDuring (outage : Outage) (archive : Archive)
    (operation : Operation) : Archive :=
  let met := archive.directory.impaired outage
  let after := perform ⟨archive.history, met⟩ operation
  ⟨after.history, archive.directory.recovered outage after.directory⟩

/-- Operations in order, each during an outage of its own. -/
def run (archive : Archive) (steps : List (Operation × Outage)) : Archive :=
  steps.foldl (fun archive step => archive.performDuring step.2 step.1) archive

end Archive

namespace LogFile

theorem foldlM_insertRow_ok {rows more result : List LogRow}
    (success : more.foldlM insertRow rows = .ok result) :
    result = rows ++ more := by
  induction more generalizing rows with
  | nil =>
      have equality : rows = result := by simpa [pure, Except.pure] using success
      simp [equality]
  | cons row more induction =>
      rw [List.foldlM_cons, insertRow] at success
      split at success
      · simp [bind, Except.bind] at success
      · simpa using induction success

/-- Rows whose identifiers are new and differ are all inserted. -/
theorem foldlM_insertRow_of_distinct {rows more : List LogRow}
    (distinct : ((rows ++ more).map (·.id)).Nodup) :
    more.foldlM insertRow rows = .ok (rows ++ more) := by
  induction more generalizing rows with
  | nil => simp [pure, Except.pure]
  | cons row more induction =>
      have regrouped : rows ++ row :: more = (rows ++ [row]) ++ more := by simp
      have free : (rows.any fun other => other.id == row.id) = false := by
        rw [List.map_append, List.map_cons] at distinct
        have apart := (List.nodup_append.mp distinct).2.2
        apply List.any_eq_false.mpr
        intro other member
        simpa using apart other.id (List.mem_map_of_mem member) row.id (by simp)
      rw [regrouped] at distinct
      rw [List.foldlM_cons, insertRow, if_neg (by simpa using free), regrouped]
      exact induction distinct

theorem load_table (rows : List LogRow) (limit : Nat) :
    (table rows).load limit = .ok ((rows.rtake limit).filterMap fun row =>
      ExecutionRecord.ofText? row.payload) := rfl

theorem append_eq_ok {log result : LogFile} {records : List ExecutionRecord}
    {keep : Nat} (success : log.append records keep = .ok result) :
    ∃ rows, log = .table rows ∧
      result = .table ((rows ++ records.map LogRow.ofRecord).rtake keep) := by
  cases log with
  | table rows =>
      simp only [append, LogFile.rows, bind, Except.bind] at success
      split at success
      · cases success
      · rename_i inserted
        rw [foldlM_insertRow_ok inserted] at success
        cases success
        exact ⟨rows, rfl, rfl⟩
  | absent => cases success
  | noTable => cases success
  | unusable => cases success

theorem append_of_distinct {rows : List LogRow}
    {records : List ExecutionRecord} (keep : Nat)
    (distinct : ((rows ++ records.map LogRow.ofRecord).map (·.id)).Nodup) :
    (LogFile.table rows).append records keep =
      .ok (.table ((rows ++ records.map LogRow.ofRecord).rtake keep)) := by
  simp only [append, LogFile.rows, bind, Except.bind,
    foldlM_insertRow_of_distinct distinct]
  rfl

end LogFile

end Polystore
