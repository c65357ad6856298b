import Polystore.Proofs.History.Operations
import Polystore.Proofs.Learning.Snapshot

/-!
# Outcomes of operations

What writing the log, clearing and flushing can come to, with the condition of
each outcome.  An invariant of a history is checked against these outcomes
once, so no later proof looks into the operations again.
-/

namespace Polystore.History

variable {history : History} {directory : DataDirectory}
  {records : List ExecutionRecord}

/-- Two histories differ at most in what concerns the directory. -/
structure SameMemory (before after : History) : Prop where
  records : after.records = before.records
  model : after.model = before.model
  limit : after.limit = before.limit
  attached : after.attached = before.attached

theorem SameMemory.refl (history : History) : SameMemory history history :=
  ⟨rfl, rfl, rfl, rfl⟩

/-- The outcomes of opening. -/
inductive OpenOutcome (directory : DataDirectory) (model : Model)
    (limit : Nat) : History × DataDirectory → Prop where
  | refused {fault : Fault} :
      directory.log.opened = .error fault →
      OpenOutcome directory model limit
        (degradedFrom model limit, directory)
  | unreadable {log : LogFile} {fault : Fault} :
      directory.log.opened = .ok log →
      log.load (max limit 1) = .error fault →
      OpenOutcome directory model limit
        (degradedFrom model limit, { directory with log })
  | loaded {log : LogFile} {records news : List ExecutionRecord} :
      directory.log.opened = .ok log →
      log.load (max limit 1) = .ok records →
      news = records.filter (isNews (restored model directory.profiles)) →
      OpenOutcome directory model limit
        ({ records
           model := observeAll (restored model directory.profiles) news
           limit := max limit 1
           attached := true
           degraded := false
           unsaved := news.length }, { directory with log })

theorem openIn_outcome (directory : DataDirectory) (model : Model)
    (limit : Nat) :
    OpenOutcome directory model limit (openIn directory model limit) := by
  cases opens : directory.log.opened with
  | error fault =>
      simp only [openIn, opens]
      exact .refused opens
  | ok log =>
      cases loads : log.load (max limit 1) with
      | error fault =>
          simp only [openIn, opens, loads]
          exact .unreadable opens loads
      | ok records =>
          simp only [openIn, opens, loads]
          exact .loaded opens loads rfl

theorem capacity_restored (model : Model) (profiles : ProfileFile) :
    (restored model profiles).capacity = model.capacity := by
  rw [restored]
  cases profiles.load with
  | ok document => exact Model.capacity_restore model document
  | error fault => rfl

theorem OpenOutcome.limit {model : Model} {limit : Nat}
    {opened : History × DataDirectory}
    (outcome : OpenOutcome directory model limit opened) :
    opened.1.limit = max limit 1 := by
  cases outcome <;> rfl

theorem OpenOutcome.capacity {model : Model} {limit : Nat}
    {opened : History × DataDirectory}
    (outcome : OpenOutcome directory model limit opened) :
    opened.1.model.capacity = model.capacity := by
  cases outcome with
  | refused => rfl
  | unreadable => rfl
  | loaded => simp only [capacity_observeAll, capacity_restored]

theorem OpenOutcome.fits {model : Model} {limit : Nat}
    {opened : History × DataDirectory}
    (outcome : OpenOutcome directory model limit opened) :
    opened.1.records.length ≤ max limit 1 := by
  cases outcome with
  | refused => exact Nat.zero_le _
  | unreadable => exact Nat.zero_le _
  | @loaded log records _ _ loads _ =>
      cases log with
      | table rows =>
          rw [LogFile.load_table] at loads
          cases loads
          apply Nat.le_trans (List.length_filterMap_le _ _)
          rw [List.length_rtake]
          exact Nat.min_le_left _ _
      | absent => cases loads
      | noTable => cases loads
      | unusable => cases loads

/-- A history that has not degraded by being opened has its directory, with a
log in it. -/
theorem OpenOutcome.of_sound {model : Model} {limit : Nat}
    {opened : History × DataDirectory}
    (outcome : OpenOutcome directory model limit opened)
    (sound : opened.1.degraded = false) :
    opened.1.attached = true ∧ ∃ rows, opened.2.log = .table rows := by
  cases outcome with
  | refused => cases sound
  | unreadable => cases sound
  | @loaded log _ _ _ loads _ =>
      cases log with
      | table rows => exact ⟨rfl, rows, rfl⟩
      | absent => cases loads
      | noTable => cases loads
      | unusable => cases loads

/-- The outcomes of writing a batch to the log. -/
inductive WriteOutcome (history : History) (directory : DataDirectory)
    (records : List ExecutionRecord) : History × DataDirectory → Prop where
  | detached :
      history.isPersistent = false →
      WriteOutcome history directory records (history, directory)
  | refused {fault : Fault} :
      history.isPersistent = true →
      directory.log.append records history.limit = .error fault →
      WriteOutcome history directory records (history.degrade, directory)
  | logged {log : LogFile} :
      history.isPersistent = true →
      directory.log.append records history.limit = .ok log →
      history.unsaved + records.length < saveInterval →
      WriteOutcome history directory records
        ({ history with unsaved := history.unsaved + records.length },
          { directory with log })
  | saved {log : LogFile} {profiles : ProfileFile} :
      history.isPersistent = true →
      directory.log.append records history.limit = .ok log →
      saveInterval ≤ history.unsaved + records.length →
      directory.profiles.save history.model.snapshot = .ok profiles →
      WriteOutcome history directory records
        ({ history with unsaved := 0 }, ⟨log, profiles⟩)
  | unsaved {log : LogFile} {fault : Fault} :
      history.isPersistent = true →
      directory.log.append records history.limit = .ok log →
      saveInterval ≤ history.unsaved + records.length →
      directory.profiles.save history.model.snapshot = .error fault →
      WriteOutcome history directory records
        ({ history with unsaved := 0, degraded := true },
          { directory with log })

theorem writeLog_outcome (history : History) (directory : DataDirectory)
    (records : List ExecutionRecord) :
    WriteOutcome history directory records
      (history.writeLog directory records) := by
  cases persistent : history.isPersistent with
  | false =>
      simp only [writeLog, persistent]
      exact .detached persistent
  | true =>
      cases written : directory.log.append records history.limit with
      | error fault =>
          simp only [writeLog, persistent, written, if_true]
          exact .refused persistent written
      | ok log =>
          by_cases due : saveInterval ≤ history.unsaved + records.length
          · cases saved : directory.profiles.save history.model.snapshot with
            | ok profiles =>
                simp only [writeLog, persistent, written, due, saveProfiles,
                  saved, if_true]
                exact .saved persistent written due saved
            | error fault =>
                simp only [writeLog, persistent, written, due, saveProfiles,
                  saved, if_true, degrade]
                exact .unsaved persistent written due saved
          · simp only [writeLog, persistent, written, due, if_true, if_false]
            exact .logged persistent written (Nat.lt_of_not_le due)

theorem WriteOutcome.sameMemory {written : History × DataDirectory}
    (outcome : WriteOutcome history directory records written) :
    SameMemory history written.1 := by
  cases outcome with
  | detached => exact .refl history
  | refused => exact ⟨rfl, rfl, rfl, rfl⟩
  | logged => exact ⟨rfl, rfl, rfl, rfl⟩
  | saved => exact ⟨rfl, rfl, rfl, rfl⟩
  | unsaved => exact ⟨rfl, rfl, rfl, rfl⟩

/-- A history that is still persistent has written the whole batch. -/
theorem WriteOutcome.log_of_persistent {written : History × DataDirectory}
    (outcome : WriteOutcome history directory records written)
    (persistent : written.1.isPersistent = true) :
    history.isPersistent = true ∧
      directory.log.append records history.limit = .ok written.2.log := by
  cases outcome with
  | detached notPersistent =>
      exact absurd (notPersistent.symm.trans persistent) (by simp)
  | refused => simp [isPersistent, degrade] at persistent
  | logged before success _ => exact ⟨before, success⟩
  | saved before success _ _ => exact ⟨before, success⟩
  | unsaved => simp [isPersistent] at persistent

/-- The outcomes of saving the profiles when records are unsaved. -/
inductive FlushOutcome (history : History) (directory : DataDirectory) :
    History × DataDirectory → Prop where
  | idle :
      (history.isPersistent = true → history.unsaved = 0) →
      FlushOutcome history directory (history, directory)
  | saved {profiles : ProfileFile} :
      history.isPersistent = true →
      directory.profiles.save history.model.snapshot = .ok profiles →
      FlushOutcome history directory
        ({ history with unsaved := 0 }, { directory with profiles })
  | unsaved {fault : Fault} :
      history.isPersistent = true →
      directory.profiles.save history.model.snapshot = .error fault →
      FlushOutcome history directory
        ({ history with unsaved := 0, degraded := true }, directory)

theorem flush_outcome (history : History) (directory : DataDirectory) :
    FlushOutcome history directory
      ((history.flush directory).1, (history.flush directory).2.1) := by
  cases persistent : history.isPersistent with
  | false =>
      simp only [flush, persistent, Bool.false_and]
      exact .idle (by simp [persistent])
  | true =>
      by_cases due : 0 < history.unsaved
      · cases saved : directory.profiles.save history.model.snapshot with
        | ok profiles =>
            simp only [flush, persistent, due, saveProfiles, saved,
              decide_true, Bool.and_self, if_true]
            exact .saved persistent saved
        | error fault =>
            simp only [flush, persistent, due, saveProfiles, saved,
              decide_true, Bool.and_self, if_true, degrade]
            exact .unsaved persistent saved
      · simp only [flush, persistent, due, decide_false, Bool.and_false]
        exact .idle fun _ => by omega

theorem FlushOutcome.sameMemory {flushed : History × DataDirectory}
    (outcome : FlushOutcome history directory flushed) :
    SameMemory history flushed.1 ∧ flushed.2.log = directory.log := by
  cases outcome with
  | idle => exact ⟨.refl history, rfl⟩
  | saved => exact ⟨⟨rfl, rfl, rfl, rfl⟩, rfl⟩
  | unsaved => exact ⟨⟨rfl, rfl, rfl, rfl⟩, rfl⟩

theorem model_flush (history : History) (directory : DataDirectory) :
    (history.flush directory).1.model = history.model :=
  (flush_outcome history directory).sameMemory.1.model

theorem FlushOutcome.persistent_before {flushed : History × DataDirectory}
    (outcome : FlushOutcome history directory flushed)
    (persistent : flushed.1.isPersistent = true) :
    history.isPersistent = true := by
  cases outcome with
  | idle => exact persistent
  | saved before _ => exact before
  | unsaved before _ => exact before

/-- The outcomes of clearing. -/
inductive ClearOutcome (history : History) (directory : DataDirectory) :
    History × DataDirectory → Prop where
  | detached :
      history.isPersistent = false →
      ClearOutcome history directory
        ({ history with records := [], model := history.model.clear },
          directory)
  | refused {fault : Fault} :
      history.isPersistent = true →
      directory.log.clear = .error fault →
      ClearOutcome history directory
        ({ history with
            records := [], model := history.model.clear, unsaved := 0,
            degraded := true }, directory)
  | half {log : LogFile} {fault : Fault} :
      history.isPersistent = true →
      directory.log.clear = .ok log →
      directory.profiles.remove = .error fault →
      ClearOutcome history directory
        ({ history with
            records := [], model := history.model.clear, unsaved := 0,
            degraded := true }, { directory with log })
  | cleared {log : LogFile} {profiles : ProfileFile} :
      history.isPersistent = true →
      directory.log.clear = .ok log →
      directory.profiles.remove = .ok profiles →
      ClearOutcome history directory
        ({ history with
            records := [], model := history.model.clear, unsaved := 0 },
          ⟨log, profiles⟩)

theorem clear_outcome (history : History) (directory : DataDirectory) :
    ClearOutcome history directory (history.clear directory) := by
  have unchanged :
      ({ history with
          records := [], model := history.model.clear } : History).isPersistent =
        history.isPersistent := rfl
  cases persistent : history.isPersistent with
  | false =>
      simp only [clear, unchanged, persistent]
      exact .detached persistent
  | true =>
      cases cleared : directory.log.clear with
      | error fault =>
          simp only [clear, unchanged, persistent, clearDirectory, cleared,
            if_true, degrade]
          exact .refused persistent cleared
      | ok log =>
          cases removed : directory.profiles.remove with
          | error fault =>
              simp only [clear, unchanged, persistent, clearDirectory,
                cleared, removed, if_true, degrade]
              exact .half persistent cleared removed
          | ok profiles =>
              simp only [clear, unchanged, persistent, clearDirectory,
                cleared, removed, if_true]
              exact .cleared persistent cleared removed

theorem ClearOutcome.sameMemory {cleared : History × DataDirectory}
    (outcome : ClearOutcome history directory cleared) :
    SameMemory { history with records := [], model := history.model.clear }
      cleared.1 := by
  cases outcome with
  | detached => exact .refl _
  | refused => exact ⟨rfl, rfl, rfl, rfl⟩
  | half => exact ⟨rfl, rfl, rfl, rfl⟩
  | cleared => exact ⟨rfl, rfl, rfl, rfl⟩

theorem ClearOutcome.log_of_persistent {cleared : History × DataDirectory}
    (outcome : ClearOutcome history directory cleared)
    (persistent : cleared.1.isPersistent = true) :
    directory.log.clear = .ok cleared.2.log := by
  cases outcome with
  | detached notPersistent =>
      exact absurd (notPersistent.symm.trans persistent) (by simp)
  | refused => simp [isPersistent] at persistent
  | half => simp [isPersistent] at persistent
  | cleared _ success _ => exact success

/-- An append of no records changes nothing; any other learns the batch,
writes it and retains it. -/
theorem append_of_ne_nil (history : History) (directory : DataDirectory)
    (nonempty : records ≠ []) :
    history.append directory records =
      let written := (history.learn records).writeLog directory records
      (written.1.retain records, written.2) := by
  simp [append, nonempty]

theorem model_append (history : History) (directory : DataDirectory)
    (records : List ExecutionRecord) :
    (history.append directory records).1.model =
      observeAll history.model records := by
  by_cases none : records = []
  · subst none
    rfl
  · rw [append_of_ne_nil history directory none]
    exact (writeLog_outcome (history.learn records) directory
      records).sameMemory.model

theorem retain_eq (history : History) (records : List ExecutionRecord) :
    history.retain records =
      { history with
        records := (history.records ++ records).rtake history.limit } := rfl

theorem records_append_of_ne_nil (history : History)
    (directory : DataDirectory) (nonempty : records ≠ []) :
    (history.append directory records).1.records =
      (history.records ++ records).rtake history.limit := by
  rw [append_of_ne_nil history directory nonempty]
  have same := (writeLog_outcome (history.learn records) directory
    records).sameMemory
  simp only [retain_eq, same.limit, same.records]
  rfl

/-- What was retained before does not matter beyond the limit. -/
theorem records_append (directory : DataDirectory)
    (fits : history.records.length ≤ history.limit) :
    (history.append directory records).1.records =
      (history.records ++ records).rtake history.limit := by
  by_cases none : records = []
  · subst none
    rw [List.append_nil, List.rtake_of_length_le fits]
    rfl
  · exact records_append_of_ne_nil history directory none

theorem profiles_append_of_few (directory : DataDirectory)
    (few : history.unsaved + records.length < saveInterval) :
    (history.append directory records).2.profiles = directory.profiles := by
  by_cases none : records = []
  · subst none
    rfl
  · rw [append_of_ne_nil history directory none]
    have outcome := writeLog_outcome (history.learn records) directory records
    generalize (history.learn records).writeLog directory records = written
      at outcome ⊢
    cases outcome with
    | detached => rfl
    | refused => rfl
    | logged => rfl
    | saved _ _ due _ => exact absurd due (Nat.not_le_of_lt few)
    | unsaved => rfl

@[simp] theorem append_nil (history : History) (directory : DataDirectory) :
    history.append directory [] = (history, directory) := rfl

end Polystore.History
