import Polystore.Proofs.History.Sharing

/-!
# Interleaved appends

However the tasks of concurrent appends follow each other, each batch is
logged once and retained once, and each of its records is learned once.  What
the history holds between two clears is therefore told by three orders: the
order of learning, that of logging and that of retaining.
-/

namespace Polystore

namespace Task

theorem learned_ofBatch (records : List ExecutionRecord) :
    (ofBatch records).flatMap learned = records := by
  simp [ofBatch, List.flatMap_append, List.flatMap_map, learned]

theorem logged_ofBatch (records : List ExecutionRecord) :
    (ofBatch records).flatMap logged = [records] := by
  simp [ofBatch, List.flatMap_append, List.flatMap_map, logged]

theorem retained_ofBatch (records : List ExecutionRecord) :
    (ofBatch records).flatMap retained = [records] := by
  simp [ofBatch, List.flatMap_append, List.flatMap_map, retained]

end Task

theorem Archive.due_work (archive : Archive) (task : Task) {α : Type}
    {part : Task → List α} (noSave : part .save = []) :
    (archive.work task).2.flatMap part = [] := by
  have outcome := archive.work_outcome task
  generalize archive.work task = worked at outcome ⊢
  cases outcome with
  | due => simp [noSave]
  | learned => rfl
  | detached => rfl
  | refused => rfl
  | logged => rfl
  | saved => rfl
  | unsaved => rfl
  | retained => rfl

namespace Shared

variable {first middle last : Shared} {move : Move} {moves : List Move}

section Parts

variable {α : Type} {part : Task → List α} (noSave : part .save = [])

include noSave

/-- What has been done and what is still to be done make up what was to be
done before and what has come in. -/
theorem Step.perm_done (step : first.Step move last) :
    (move.tasks.flatMap part ++ last.calls.flatten.flatMap part).Perm
      (first.calls.flatten.flatMap part ++
        move.batches.flatMap fun records =>
          (Task.ofBatch records).flatMap part) := by
  cases step with
  | enter => simp [Move.tasks, Move.batches]
  | @take archive before task rest behind =>
      have nothing := archive.due_work task noSave
      simp only [Move.tasks, Move.batches, List.flatten_append,
        List.flatten_cons, List.flatMap_append, List.flatMap_cons, nothing,
        List.flatMap_nil, List.append_nil, List.nil_append]
      simpa using List.perm_append_comm_assoc (part task)
        (before.flatten.flatMap part)
        (rest.flatMap part ++ behind.flatten.flatMap part)
  | clear => simp [Move.tasks, Move.batches]

theorem Run.perm_done (ran : first.Run moves last) :
    ((Move.done moves).flatMap part ++ last.calls.flatten.flatMap part).Perm
      (first.calls.flatten.flatMap part ++
        (Move.entered moves).flatMap fun records =>
          (Task.ofBatch records).flatMap part) := by
  induction ran with
  | nil => simp [Move.done, Move.entered]
  | @cons first next last move moves step _ induction =>
      have now := step.perm_done noSave
      have later := (induction.append_left (move.tasks.flatMap part)).trans
        (.of_eq (List.append_assoc _ _ _).symm)
      have both := later.trans (now.append_right _)
      simpa [Move.done, Move.entered] using both

theorem Run.perm_of_quiet (ran : first.Run moves last)
    (before : first.Quiet) (after : last.Quiet) :
    ((Move.done moves).flatMap part).Perm
      ((Move.entered moves).flatMap fun records =>
        (Task.ofBatch records).flatMap part) := by
  have done := ran.perm_done noSave
  rw [List.flatten_eq_nil_iff.mpr before, List.flatten_eq_nil_iff.mpr after]
    at done
  simpa using done

end Parts

theorem Run.learned_perm (ran : first.Run moves last) (before : first.Quiet)
    (after : last.Quiet) :
    (Move.learned moves).Perm (Move.entered moves).flatten := by
  have same : ((Move.done moves).flatMap Task.learned).Perm _ :=
    ran.perm_of_quiet rfl before after
  simpa only [Task.learned_ofBatch, Move.learned, List.flatMap_id'] using same

theorem Run.logged_perm (ran : first.Run moves last) (before : first.Quiet)
    (after : last.Quiet) : (Move.logged moves).Perm (Move.entered moves) := by
  have same : ((Move.done moves).flatMap Task.logged).Perm _ :=
    ran.perm_of_quiet rfl before after
  simpa only [Task.logged_ofBatch, Move.logged, List.flatMap_singleton']
    using same

theorem Run.retained_perm (ran : first.Run moves last) (before : first.Quiet)
    (after : last.Quiet) :
    (Move.retained moves).Perm (Move.entered moves) := by
  have same : ((Move.done moves).flatMap Task.retained).Perm _ :=
    ran.perm_of_quiet rfl before after
  simpa only [Task.retained_ofBatch, Move.retained, List.flatMap_singleton']
    using same

end Shared

namespace Archive

variable {start archive : Archive} {done : List Task}

/-- An archive after tasks: each part of it is told by the tasks that work on
that part.  The log is told as long as it is written. -/
structure Accounts (start : Archive) (done : List Task)
    (archive : Archive) : Prop where
  anchored : archive.Anchored
  sound : archive.history.degraded = false → start.history.degraded = false
  limit : archive.history.limit = start.history.limit
  model : archive.history.model =
    History.observeAll start.history.model (done.flatMap Task.learned)
  records : archive.history.records =
    List.keepLast start.history.limit start.history.records
      (done.flatMap Task.retained)
  log : archive.history.degraded = false →
    ∀ rows, start.directory.log = .table rows →
      archive.directory.log =
        .table (List.keepLast start.history.limit rows
          ((done.flatMap Task.logged).map (List.map LogRow.ofRecord)))

theorem Anchored.accounts_nil (anchored : start.Anchored) :
    Accounts start [] start where
  anchored
  sound := id
  limit := rfl
  model := rfl
  records := rfl
  log := fun _ _ isTable => isTable

theorem anchored_work (anchored : archive.Anchored) (task : Task) :
    (archive.work task).1.Anchored := by
  have outcome := archive.work_outcome task
  generalize archive.work task = worked at outcome ⊢
  cases outcome with
  | retained => exact anchored
  | learned => exact anchored
  | detached => exact anchored
  | refused => exact fun sound => nomatch sound
  | logged => exact anchored
  | due => exact anchored
  | saved => exact anchored
  | unsaved => exact fun sound => nomatch sound

theorem sound_of_work (task : Task)
    (sound : (archive.work task).1.history.degraded = false) :
    archive.history.degraded = false := by
  have outcome := archive.work_outcome task
  generalize archive.work task = worked at outcome sound
  cases outcome with
  | retained => exact sound
  | learned => exact sound
  | detached => exact sound
  | refused => cases sound
  | logged => exact sound
  | due => exact sound
  | saved => exact sound
  | unsaved => cases sound

theorem limit_work (archive : Archive) (task : Task) :
    (archive.work task).1.history.limit = archive.history.limit := by
  have outcome := archive.work_outcome task
  generalize archive.work task = worked at outcome ⊢
  cases outcome <;> rfl

theorem model_work (archive : Archive) (task : Task) :
    (archive.work task).1.history.model =
      History.observeAll archive.history.model task.learned := by
  have outcome := archive.work_outcome task
  generalize archive.work task = worked at outcome ⊢
  cases outcome <;> rfl

theorem records_work (archive : Archive) (task : Task) :
    (archive.work task).1.history.records =
      List.keepLast archive.history.limit archive.history.records
        task.retained := by
  have outcome := archive.work_outcome task
  generalize archive.work task = worked at outcome ⊢
  cases outcome <;> rfl

/-- A log that is still written after a task has taken what the task logs. -/
theorem log_work {rows : List LogRow} (anchored : archive.Anchored)
    (task : Task) (sound : (archive.work task).1.history.degraded = false)
    (isTable : archive.directory.log = .table rows) :
    (archive.work task).1.directory.log =
      .table (List.keepLast archive.history.limit rows
        (task.logged.map (List.map LogRow.ofRecord))) := by
  have persistent := anchored.isPersistent (sound_of_work task sound)
  have taken : ∀ {records log},
      archive.directory.log.append records archive.history.limit = .ok log →
        log = .table ((rows ++ records.map LogRow.ofRecord).rtake
          archive.history.limit) := by
    intro records log success
    obtain ⟨before, wasTable, result⟩ := LogFile.append_eq_ok success
    cases isTable.symm.trans wasTable
    exact result
  have outcome := archive.work_outcome task
  generalize archive.work task = worked at outcome sound ⊢
  cases outcome with
  | detached detached => exact absurd (persistent.symm.trans detached) (by simp)
  | refused => cases sound
  | logged _ success _ => exact taken success
  | due _ success _ => exact taken success
  | unsaved => cases sound
  | retained => exact isTable
  | learned => exact isTable
  | saved => exact isTable

theorem Accounts.work (accounts : Accounts start done archive) (task : Task) :
    Accounts start (done ++ [task]) (archive.work task).1 where
  anchored := anchored_work accounts.anchored task
  sound := fun sound => accounts.sound (sound_of_work task sound)
  limit := (archive.limit_work task).trans accounts.limit
  model := by
    rw [model_work, accounts.model, List.flatMap_append,
      History.observeAll_append, List.flatMap_singleton]
  records := by
    rw [records_work, accounts.limit, accounts.records, List.flatMap_append,
      List.keepLast_append, List.flatMap_singleton]
  log := by
    intro sound rows isTable
    have before := accounts.log (sound_of_work task sound) rows isTable
    rw [log_work accounts.anchored task sound before, accounts.limit,
      List.flatMap_append, List.map_append, List.keepLast_append,
      List.flatMap_singleton]

end Archive

namespace Shared

variable {first last : Shared} {moves : List Move}

/-- Until all is cleared, an archive is told by the tasks that were done. -/
theorem Run.accounts {start : Archive} {done : List Task}
    (ran : first.Run moves last) (noClear : moves.any Move.isClear = false)
    (accounts : start.Accounts done first.archive) :
    start.Accounts (done ++ Move.done moves) last.archive := by
  induction ran generalizing done with
  | nil => simpa [Move.done] using accounts
  | cons step _ induction =>
      rw [List.any_cons, Bool.or_eq_false_iff] at noClear
      obtain ⟨isNoClear, later⟩ := noClear
      cases step with
      | enter => exact induction later accounts
      | @take archive before task rest behind =>
          have onward := induction later (accounts.work task)
          rwa [List.append_assoc] at onward
      | clear => cases isNoClear

end Shared

end Polystore
