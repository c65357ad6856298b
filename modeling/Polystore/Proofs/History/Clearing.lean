import Polystore.Proofs.History.Recovery
import Polystore.Proofs.History.Transparency

/-!
# What a clear leaves behind

A clear always empties the memory.  It empties the directory only while the
directory is still written: then the next history that is opened on it starts
with nothing.  A history that has degraded before leaves its directory alone,
so the next history finds there what was kept until the failure.
-/

namespace Polystore

namespace Operation

/-- The operation appends no record. -/
def Silent : Operation → Prop
  | .append records => records = []
  | .clear => True
  | .flush => True

end Operation

theorem LogFile.clear_eq_ok {log result : LogFile}
    (cleared : log.clear = .ok result) :
    ∃ rows, log = .table rows ∧ result = .table [] := by
  cases log with
  | table rows =>
      cases cleared
      exact ⟨rows, rfl, rfl⟩
  | absent => cases cleared
  | noTable => cases cleared
  | unusable => cases cleared

theorem ProfileFile.remove_eq_ok {file result : ProfileFile}
    (removed : file.remove = .ok result) :
    file ≠ .directory ∧ result = .absent := by
  cases file with
  | absent =>
      cases removed
      exact ⟨by simp, rfl⟩
  | text content =>
      cases removed
      exact ⟨by simp, rfl⟩
  | directory => cases removed

namespace Archive

variable {archive : Archive}

/-- A history opened on a directory, parts of which may be out of order. -/
def openDuring (outage : Outage) (directory : DataDirectory) (model : Model)
    (limit : Nat) : Archive :=
  let (history, met) :=
    History.openIn (directory.impaired outage) model limit
  ⟨history, directory.recovered outage met⟩

/-- A history that has a directory at all has one until it degrades. -/
def Anchored (archive : Archive) : Prop :=
  archive.history.degraded = false → archive.history.attached = true

theorem Anchored.isPersistent (anchored : Anchored archive)
    (sound : archive.history.degraded = false) :
    archive.history.isPersistent = true := by
  simp [History.isPersistent, sound, anchored sound]

theorem anchored_openDuring (outage : Outage) (directory : DataDirectory)
    (model : Model) (limit : Nat) :
    Anchored (openDuring outage directory model limit) :=
  fun sound => ((History.openIn_outcome (directory.impaired outage) model
    limit).of_sound sound).1

theorem attached_perform (archive : Archive) (operation : Operation) :
    (archive.perform operation).history.attached =
      archive.history.attached := by
  cases operation with
  | append records =>
      by_cases none : records = []
      · rw [none]
        rfl
      · rw [archive.perform_append_of_ne_nil none]
        exact (History.writeLog_outcome (archive.history.learn records)
          archive.directory records).sameMemory.attached
  | clear =>
      exact (History.clear_outcome archive.history
        archive.directory).sameMemory.attached
  | flush =>
      exact (History.flush_outcome archive.history
        archive.directory).sameMemory.1.attached

theorem perform_of_degraded (archive : Archive)
    (degraded : archive.history.degraded = true) (operation : Operation) :
    (archive.perform operation).history.degraded = true ∧
      (archive.perform operation).directory = archive.directory := by
  cases operation with
  | append records =>
      by_cases none : records = []
      · rw [none]
        exact ⟨degraded, rfl⟩
      · simp [archive.perform_append_of_ne_nil none, History.writeLog,
          History.isPersistent, History.learn, History.retain, degraded]
  | clear =>
      simp [perform, History.clear, History.isPersistent, degraded]
  | flush =>
      simp [perform, History.flush, History.isPersistent, degraded]

theorem recovered_impaired (outage : Outage) (directory : DataDirectory) :
    directory.recovered outage (directory.impaired outage) = directory := by
  obtain ⟨log, profiles⟩ := outage
  cases log <;> cases profiles <;> rfl

theorem performDuring_of_degraded
    (degraded : archive.history.degraded = true) (outage : Outage)
    (operation : Operation) :
    (archive.performDuring outage operation).history.degraded = true ∧
      (archive.performDuring outage operation).directory =
        archive.directory := by
  obtain ⟨still, same⟩ := perform_of_degraded
    ⟨archive.history, archive.directory.impaired outage⟩ degraded operation
  refine ⟨still, ?_⟩
  simp only [performDuring, same, recovered_impaired]

theorem Anchored.performDuring (anchored : Anchored archive)
    (outage : Outage) (operation : Operation) :
    Anchored (archive.performDuring outage operation) := by
  intro sound
  cases before : archive.history.degraded with
  | true =>
      rw [(performDuring_of_degraded before outage operation).1] at sound
      cases sound
  | false =>
      exact (attached_perform ⟨archive.history,
        archive.directory.impaired outage⟩ operation).trans (anchored before)

theorem Anchored.run (anchored : Anchored archive)
    (steps : List (Operation × Outage)) : Anchored (archive.run steps) := by
  induction steps generalizing archive with
  | nil => exact anchored
  | cons step steps induction =>
      exact induction (anchored.performDuring step.2 step.1)

theorem directory_run_of_degraded
    (degraded : archive.history.degraded = true)
    (steps : List (Operation × Outage)) :
    (archive.run steps).directory = archive.directory := by
  induction steps generalizing archive with
  | nil => rfl
  | cons step steps induction =>
      obtain ⟨still, same⟩ :=
        performDuring_of_degraded degraded step.2 step.1
      exact (induction still).trans same

/-- The directory holds nothing, and the history has nothing to save there. -/
structure Emptied (archive : Archive) : Prop where
  log : archive.directory.log = .table []
  profiles : archive.directory.profiles = .absent
  unsaved : archive.history.unsaved = 0

theorem emptied_clear (archive : Archive) (outage : Outage)
    (persistent : (archive.performDuring outage .clear).history.isPersistent =
      true) :
    Emptied (archive.performDuring outage .clear) := by
  have outcome := History.clear_outcome archive.history
    (archive.directory.impaired outage)
  simp only [performDuring, perform] at persistent ⊢
  generalize archive.history.clear (archive.directory.impaired outage) =
    result at outcome persistent ⊢
  cases outcome with
  | detached notPersistent =>
      exact absurd (notPersistent.symm.trans persistent) (by simp)
  | refused => simp [History.isPersistent] at persistent
  | half => simp [History.isPersistent] at persistent
  | cleared _ cleared removed =>
      obtain ⟨rows, isTable, isEmpty⟩ := LogFile.clear_eq_ok cleared
      obtain ⟨place, isAbsent⟩ := ProfileFile.remove_eq_ok removed
      have noLogOutage : outage.log = false := by
        cases out : outage.log with
        | false => rfl
        | true => simp [DataDirectory.impaired, out] at isTable
      have noProfilesOutage : outage.profiles = false := by
        cases out : outage.profiles with
        | false => rfl
        | true => simp [DataDirectory.impaired, out] at place
      constructor
      · simp [DataDirectory.recovered, noLogOutage, isEmpty]
      · simp [DataDirectory.recovered, noProfilesOutage, isAbsent]
      · rfl

/-- Parts that were out are as before, and they were empty before. -/
theorem Emptied.recovered (emptied : Emptied archive) {outage : Outage}
    {history : History} {met : DataDirectory}
    (log : met.log = (archive.directory.impaired outage).log ∨
      met.log = .table [])
    (profiles : met.profiles =
        (archive.directory.impaired outage).profiles ∨
      met.profiles = .absent)
    (unsaved : history.unsaved = 0) :
    Emptied ⟨history, archive.directory.recovered outage met⟩ := by
  constructor
  · simp only [DataDirectory.recovered]
    cases out : outage.log with
    | true => exact emptied.log
    | false =>
        rcases log with same | isEmpty
        · simpa [DataDirectory.impaired, out, emptied.log] using same
        · exact isEmpty
  · simp only [DataDirectory.recovered]
    cases out : outage.profiles with
    | true => exact emptied.profiles
    | false =>
        rcases profiles with same | isAbsent
        · simpa [DataDirectory.impaired, out, emptied.profiles] using same
        · exact isAbsent
  · exact unsaved

theorem Emptied.performDuring (emptied : Emptied archive) (outage : Outage)
    {operation : Operation} (silent : operation.Silent) :
    Emptied (archive.performDuring outage operation) := by
  cases operation with
  | append records =>
      have none : records = [] := silent
      rw [none, performDuring_append_nil]
      exact emptied
  | clear =>
      have outcome := History.clear_outcome archive.history
        (archive.directory.impaired outage)
      simp only [Archive.performDuring, perform]
      generalize archive.history.clear (archive.directory.impaired outage) =
        result at outcome ⊢
      cases outcome with
      | detached => exact emptied.recovered (.inl rfl) (.inl rfl) emptied.unsaved
      | refused => exact emptied.recovered (.inl rfl) (.inl rfl) rfl
      | half _ cleared _ =>
          obtain ⟨_, _, isEmpty⟩ := LogFile.clear_eq_ok cleared
          exact emptied.recovered (.inr isEmpty) (.inl rfl) rfl
      | cleared _ cleared removed =>
          obtain ⟨_, _, isEmpty⟩ := LogFile.clear_eq_ok cleared
          obtain ⟨_, isAbsent⟩ := ProfileFile.remove_eq_ok removed
          exact emptied.recovered (.inr isEmpty) (.inr isAbsent) rfl
  | flush =>
      have idle : archive.performDuring outage .flush = archive := by
        simp [Archive.performDuring, perform, History.flush, emptied.unsaved,
          recovered_impaired]
      rw [idle]
      exact emptied

theorem Emptied.run (emptied : Emptied archive)
    {steps : List (Operation × Outage)}
    (silent : ∀ step ∈ steps, step.1.Silent) :
    Emptied (archive.run steps) := by
  induction steps generalizing archive with
  | nil => exact emptied
  | cons step steps induction =>
      obtain ⟨now, later⟩ := List.forall_mem_cons.mp silent
      exact induction (emptied.performDuring step.2 now) later

/-- What is opened on an empty directory starts with nothing, also while the
directory is out of order. -/
theorem openDuring_of_empty {directory : DataDirectory}
    (log : directory.log = .table []) (profiles : directory.profiles = .absent)
    (outage : Outage) (sizes : Sizes) :
    let next := openDuring outage directory sizes.model sizes.limit
    next.history.records = [] ∧ next.history.model = sizes.model := by
  intro next
  cases out : outage.log with
  | true =>
      have refused : (directory.impaired outage).log.opened =
          .error LogFile.notDatabase := by
        simp [DataDirectory.impaired, out, LogFile.opened]
      simp only [next, openDuring, History.openIn, refused]
      exact ⟨rfl, rfl⟩
  | false =>
      have opens : (directory.impaired outage).log.opened =
          .ok (.table []) := by
        simp [DataDirectory.impaired, out, log, LogFile.opened]
      have known : History.restored sizes.model
          (directory.impaired outage).profiles = sizes.model := by
        cases away : outage.profiles with
        | true =>
            simp only [DataDirectory.impaired, away, if_true]
            rfl
        | false =>
            simp only [DataDirectory.impaired, away, profiles]
            rfl
      simp [next, openDuring, History.openIn_of_empty_log opens, known]

/-- A clear is final for what is opened on the directory later, provided that
the history has not degraded by its end.  A history that had degraded before
leaves the directory as it was. -/
theorem clear_is_final_unless_degraded (opening : Outage)
    (directory : DataDirectory) (model : Model) (limit : Nat)
    (steps : List (Operation × Outage)) (clearing : Outage)
    (later : List (Operation × Outage))
    (silent : ∀ step ∈ later, step.1.Silent) (closing reopening : Outage)
    (sizes : Sizes) :
    let before := (openDuring opening directory model limit).run steps
    let cleared := before.performDuring clearing .clear
    let left := (cleared.run (later ++ [(.flush, closing)])).directory
    let next := openDuring reopening left sizes.model sizes.limit
    (cleared.history.degraded = false →
        next.history.records = [] ∧ next.history.model = sizes.model) ∧
      (before.history.degraded = true → left = before.directory) := by
  intro before cleared left next
  constructor
  · intro sound
    have anchored : Anchored cleared :=
      ((anchored_openDuring opening directory model limit).run
        steps).performDuring clearing .clear
    have emptied : Emptied (cleared.run (later ++ [(.flush, closing)])) := by
      apply (emptied_clear before clearing (anchored.isPersistent sound)).run
      intro step member
      rcases List.mem_append.mp member with isLater | isClosing
      · exact silent step isLater
      · rw [List.mem_singleton.mp isClosing]
        trivial
    exact openDuring_of_empty emptied.log emptied.profiles reopening sizes
  · intro degraded
    obtain ⟨still, same⟩ :=
      performDuring_of_degraded degraded clearing .clear
    exact (directory_run_of_degraded still _).trans same

/-- A history that recorded, was cleared and closed leaves nothing behind. -/
theorem clear_is_final_specimen :
    let before := (openDuring .none .fresh (.empty 1 50) 4).run
      [(.append [.specimen 1 10 1.0], .none)]
    let cleared := before.performDuring .none .clear
    let left := (cleared.run [(.clear, .none), (.flush, .none)]).directory
    let next := openDuring .none left (.empty 1 50) 4
    before.history.records ≠ [] ∧ cleared.history.degraded = false ∧
      next.history.records = [] ∧ next.history.model = .empty 1 50 := by
  intro before cleared left next
  have sound : cleared.history.degraded = false := by decide +kernel
  refine ⟨by decide +kernel, sound, ?_⟩
  exact (clear_is_final_unless_degraded .none .fresh (.empty 1 50) 4
    [(.append [.specimen 1 10 1.0], .none)] .none [(.clear, .none)]
    (List.forall_mem_singleton.mpr trivial) .none .none ⟨4, 1, 50⟩).1 sound

/-- A history that is given a record twice, which ends the writing. -/
def repeating : Archive :=
  (openDuring .none .fresh (.empty 1 50) 4).run
    [(.append [.specimen 1 10 1.0], .none),
      (.append [.specimen 1 10 1.0], .none)]

theorem directory_repeating :
    repeating.directory =
      ⟨.table ([.specimen 1 10 1.0].map LogRow.ofRecord), .absent⟩ := by
  rfl

/-- After the writing has ended, a clear does not reach the record that is in
the log. -/
theorem clear_of_degraded_is_undone :
    let cleared := repeating.performDuring .none .clear
    let left := (cleared.performDuring .none .flush).directory
    let next := openDuring .none left (.empty 1 50) 4
    repeating.history.degraded = true ∧ cleared.history.records = [] ∧
      next.history.records = [.specimen 1 10 1.0] ∧
      next.history.model.sampleCount ⟨"q_0"⟩ = 1 := by
  intro cleared left next
  have degraded : repeating.history.degraded = true := by decide +kernel
  obtain ⟨still, unchanged⟩ := performDuring_of_degraded degraded .none .clear
  have kept : left =
      ⟨.table ([.specimen 1 10 1.0].map LogRow.ofRecord), .absent⟩ :=
    ((performDuring_of_degraded still .none .flush).2.trans unchanged).trans
      directory_repeating
  have readBack : ∀ record ∈ [ExecutionRecord.specimen 1 10 1.0],
      ExecutionRecord.ofText? record.text = some record := by
    simp only [List.forall_mem_singleton, ExecutionRecord.ofText?_text]
    decide +kernel
  have opened : reopen ⟨cleared.history, left⟩ ⟨4, 1, 50⟩ = _ :=
    Archive.reopen_eq ⟨4, 1, 50⟩ readBack (congrArg DataDirectory.log kept)
      (congrArg (fun directory => directory.profiles.load) kept)
  have isNext : next = reopen ⟨cleared.history, left⟩ ⟨4, 1, 50⟩ := rfl
  refine ⟨degraded, rfl, ?_⟩
  rw [isNext, opened]
  decide +kernel

end Archive

end Polystore
