import Polystore.Proofs.History.Outcomes

/-!
# Retention

The retained records, the windows of the model and the rows of the log are cut
back by three different rules.  All three are suffixes of one sequence, the
records appended since everything was last cleared, and they stay so through
every run, whatever the directory refuses.
-/

namespace Polystore

namespace History

/-- Records and windows are the last parts of what was appended. -/
structure Holds (sizes : Sizes) (medium : Medium)
    (appended : List ExecutionRecord) (history : History) : Prop where
  limit : history.limit = max sizes.limit 1
  capacity : history.model.capacity = sizes.capacity
  saturation : history.model.saturation = sizes.saturation
  attached : medium = .directory → history.attached = true
  records : history.records = appended.rtake history.limit
  remembers : history.model.Remembers appended

variable {sizes : Sizes} {medium : Medium}
  {appended : List ExecutionRecord} {history : History}

/-- What the directory goes through does not matter to the memory. -/
theorem Holds.of_sameMemory (holds : Holds sizes medium appended history)
    {after : History} (same : SameMemory history after) :
    Holds sizes medium appended after where
  limit := same.limit.trans holds.limit
  capacity := by rw [same.model, holds.capacity]
  saturation := by rw [same.model, holds.saturation]
  attached := fun isDirectory =>
    same.attached.trans (holds.attached isDirectory)
  records := by rw [same.records, same.limit, holds.records]
  remembers := same.model ▸ holds.remembers

theorem Holds.append (holds : Holds sizes medium appended history)
    (records : List ExecutionRecord) :
    Holds sizes medium (appended ++ records)
      ((history.learn records).retain records) where
  limit := holds.limit
  capacity := (capacity_observeAll _ _).trans holds.capacity
  saturation := (saturation_observeAll _ _).trans holds.saturation
  attached := holds.attached
  records := by
    have cut := List.rtake_rtake_append history.limit appended records
    rw [← holds.records] at cut
    exact cut
  remembers := holds.remembers.observeAll records

theorem Holds.clear (holds : Holds sizes medium appended history) :
    Holds sizes medium []
      { history with records := [], model := history.model.clear } where
  limit := holds.limit
  capacity := holds.capacity
  saturation := holds.saturation
  attached := holds.attached
  records := (List.rtake_nil _).symm
  remembers := Model.remembers_nil rfl

theorem SameMemory.retain {after : History} (same : SameMemory history after)
    (records : List ExecutionRecord) :
    SameMemory (history.retain records) (after.retain records) where
  records := by simp only [History.retain, same.records, same.limit]
  model := same.model
  limit := same.limit
  attached := same.attached

end History

namespace Archive

variable {sizes : Sizes} {medium : Medium}
  {appended : List ExecutionRecord} {archive : Archive}

/-- Memory and log are the last parts of what was appended, the log as long as
it is written at all. -/
structure Retains (sizes : Sizes) (medium : Medium)
    (appended : List ExecutionRecord) (archive : Archive) : Prop where
  holds : archive.history.Holds sizes medium appended
  logged : archive.history.isPersistent = true →
    archive.directory.log =
      .table (archive.history.records.map LogRow.ofRecord)

theorem start_directory (sizes : Sizes) :
    start sizes .directory =
      ⟨{ records := [], model := sizes.model, limit := max sizes.limit 1,
         attached := true, degraded := false, unsaved := 0 },
        ⟨.table [], .absent⟩⟩ := by
  simp [start, History.openIn, DataDirectory.fresh, LogFile.opened,
    LogFile.load, LogFile.rows, bind, Except.bind, pure, Except.pure,
    History.restored, ProfileFile.load, Model.restore, History.observeAll,
    Sizes.model, Model.empty, Model.clear,
    Model.restoreAll]

theorem retains_start (sizes : Sizes) (medium : Medium) :
    Retains sizes medium [] (start sizes medium) := by
  cases medium with
  | memory =>
      refine ⟨⟨rfl, rfl, rfl, by simp, ?_, Model.remembers_nil rfl⟩, ?_⟩
      · exact (List.rtake_nil _).symm
      · simp [start, History.inMemory, History.isPersistent]
  | directory =>
      rw [start_directory]
      refine ⟨⟨rfl, rfl, rfl, fun _ => rfl, ?_, Model.remembers_nil rfl⟩, ?_⟩
      · exact (List.rtake_nil _).symm
      · exact fun _ => rfl

theorem performDuring_append_nil (archive : Archive) (outage : Outage) :
    archive.performDuring outage (.append []) = archive := by
  cases archive with
  | mk history directory =>
      simp only [performDuring, perform, History.append_nil,
        DataDirectory.recovered, DataDirectory.impaired]
      cases outage.log <;> cases outage.profiles <;> rfl

theorem Retains.append (retains : Retains sizes medium appended archive)
    (outage : Outage) (records : List ExecutionRecord) :
    Retains sizes medium (appended ++ records)
      (archive.performDuring outage (.append records)) := by
  by_cases none : records = []
  · subst records
    rw [performDuring_append_nil, List.append_nil]
    exact retains
  have outcome := History.writeLog_outcome (archive.history.learn records)
    (archive.directory.impaired outage) records
  simp only [performDuring, perform,
    History.append_of_ne_nil archive.history _ none]
  generalize (archive.history.learn records).writeLog
    (archive.directory.impaired outage) records = written at outcome ⊢
  have same := outcome.sameMemory.retain records
  refine ⟨(retains.holds.append records).of_sameMemory same, ?_⟩
  intro persistent
  obtain ⟨before, success⟩ := outcome.log_of_persistent persistent
  obtain ⟨rows, isTable, result⟩ := LogFile.append_eq_ok success
  have noOutage : outage.log = false := by
    cases out : outage.log with
    | false => rfl
    | true => simp [DataDirectory.impaired, out] at isTable
  have sameRows : rows = archive.history.records.map LogRow.ofRecord := by
    have logged := retains.logged before
    simpa [DataDirectory.impaired, noOutage, logged] using isTable.symm
  have kept : (written.1.retain records).records =
      (archive.history.records ++ records).rtake archive.history.limit :=
    same.records
  simp only [DataDirectory.recovered, noOutage, kept]
  rw [List.map_rtake, List.map_append, ← sameRows]
  exact result

theorem Retains.clear (retains : Retains sizes medium appended archive)
    (outage : Outage) :
    Retains sizes medium [] (archive.performDuring outage .clear) := by
  have outcome := History.clear_outcome archive.history
    (archive.directory.impaired outage)
  simp only [performDuring, perform]
  generalize archive.history.clear (archive.directory.impaired outage) =
    cleared at outcome ⊢
  have same := outcome.sameMemory
  refine ⟨retains.holds.clear.of_sameMemory same, ?_⟩
  intro persistent
  have success := outcome.log_of_persistent persistent
  have noOutage : outage.log = false := by
    cases out : outage.log with
    | false => rfl
    | true =>
        simp [DataDirectory.impaired, out, LogFile.clear, LogFile.rows, bind,
          Except.bind] at success
  have emptied : cleared.2.log = .table [] := by
    cases found : (archive.directory.impaired outage).log.rows with
    | error fault => simp [LogFile.clear, found, bind, Except.bind] at success
    | ok rows =>
        simpa [LogFile.clear, found, bind, Except.bind, pure, Except.pure]
          using success.symm
  simp [DataDirectory.recovered, noOutage, emptied, same.records]

theorem Retains.flush (retains : Retains sizes medium appended archive)
    (outage : Outage) :
    Retains sizes medium appended (archive.performDuring outage .flush) := by
  have outcome := History.flush_outcome archive.history
    (archive.directory.impaired outage)
  obtain ⟨same, sameLog⟩ := outcome.sameMemory
  refine ⟨retains.holds.of_sameMemory same, ?_⟩
  intro persistent
  have logged := retains.logged (outcome.persistent_before persistent)
  have unchanged : (archive.performDuring outage .flush).directory.log =
      archive.directory.log := by
    cases out : outage.log with
    | true => simp [performDuring, DataDirectory.recovered, out]
    | false =>
        simpa [performDuring, perform, DataDirectory.recovered,
          DataDirectory.impaired, out] using sameLog
  rw [unchanged, logged]
  exact congrArg (fun records => LogFile.table (records.map LogRow.ofRecord))
    same.records.symm

/-- Each operation extends, empties or keeps what was appended. -/
theorem Retains.run (retains : Retains sizes medium appended archive)
    (steps : List (Operation × Outage)) :
    Retains sizes medium
      (Operation.appendedFrom appended (steps.map Prod.fst))
      (archive.run steps) := by
  induction steps generalizing archive appended with
  | nil => exact retains
  | cons step steps induction =>
      obtain ⟨operation, outage⟩ := step
      cases operation with
      | append records => exact induction (retains.append outage records)
      | clear => exact induction (retains.clear outage)
      | flush => exact induction (retains.flush outage)

/-- In every run the retained records are the last ones appended, the model
knows exactly the pairs that occur among the appended records and keeps the
last samples of each, and the log has the rows of the retained records until
the directory fails. -/
theorem run_keeps_last (sizes : Sizes) (medium : Medium)
    (steps : List (Operation × Outage)) :
    let appended := Operation.appended (steps.map Prod.fst)
    let archive := (start sizes medium).run steps
    archive.history.records =
        appended.rtake (max sizes.limit 1) ∧
      (∀ signature store,
        ((archive.history.model.profile? signature store).isSome = true ↔
          ∃ record ∈ appended,
            record.signature = signature ∧ record.store = store) ∧
        ∀ profile,
          archive.history.model.profile? signature store = some profile →
          profile.window.samples =
            (History.samplesOf signature store appended).rtake
              (max sizes.capacity 1)) ∧
      (medium = .directory → archive.history.degraded = false →
        archive.directory.log.rows =
          .ok (archive.history.records.map LogRow.ofRecord)) := by
  intro appended archive
  have retains : Retains sizes medium appended archive :=
    (retains_start sizes medium).run steps
  refine ⟨?_, ?_, ?_⟩
  · rw [← retains.holds.limit]
    exact retains.holds.records
  · intro signature store
    have remembers := retains.holds.remembers signature store
    rw [retains.holds.capacity] at remembers
    constructor
    · rw [← History.samplesOf_ne_nil_iff, ← Window.ofSamples?_isSome_iff,
        ← remembers, Option.isSome_map]
    · intro profile found
      rw [found, Option.map_some] at remembers
      exact Window.samples_of_ofSamples?_eq_some remembers.symm
  · intro isDirectory notDegraded
    have persistent : archive.history.isPersistent = true := by
      simp [History.isPersistent, retains.holds.attached isDirectory,
        notDegraded]
    rw [retains.logged persistent]
    rfl

end Archive

end Polystore
