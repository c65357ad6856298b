import Polystore.Proofs.History.Clearing

/-!
# Callers that share a history

Any number of callers append to one history at a time.  A call of append takes
its steps under different locks: it learns its records one by one, writes the
batch to the log, saves the profiles when that is due and retains the batch.
Between two steps of one call, the others may take any number of theirs, and
new calls may begin.  All is cleared only while no call is under way.
-/

namespace Polystore

/-- What a call of append does under one lock. -/
inductive Task where
  | learn (record : ExecutionRecord)
  | log (records : List ExecutionRecord)
  | save
  | retain (records : List ExecutionRecord)
deriving DecidableEq

namespace Task

/-- The tasks of a call, in order.  Whether the profiles are saved turns out
only when the batch is logged. -/
def ofBatch (records : List ExecutionRecord) : List Task :=
  records.map .learn ++ [.log records, .retain records]

def learned : Task → List ExecutionRecord
  | .learn record => [record]
  | _ => []

def logged : Task → List (List ExecutionRecord)
  | .log records => [records]
  | _ => []

def retained : Task → List (List ExecutionRecord)
  | .retain records => [records]
  | _ => []

end Task

namespace Archive

/-- An archive after a task, and the tasks that have become due by it. -/
def work (archive : Archive) : Task → Archive × List Task
  | .learn record =>
    ({ archive with history := archive.history.learn [record] }, [])
  | .log records =>
    if archive.history.isPersistent then
      match archive.directory.log.append records archive.history.limit with
      | .error _ => ({ archive with history := archive.history.degrade }, [])
      | .ok log =>
        let unsaved := archive.history.unsaved + records.length
        (⟨{ archive.history with unsaved }, { archive.directory with log }⟩,
          if History.saveInterval ≤ unsaved then [.save] else [])
    else (archive, [])
  | .save =>
    let (history, directory, _) :=
      archive.history.saveProfiles archive.directory
    (⟨history, directory⟩, [])
  | .retain records =>
    ({ archive with history := archive.history.retain records }, [])

end Archive

/-- A history that callers share. -/
structure Shared where
  archive : Archive
  /-- What each call has still to do. -/
  calls : List (List Task)

/-- What happens to a shared history. -/
inductive Move where
  /-- A call of append passes the gate. -/
  | enter (records : List ExecutionRecord)
  /-- One of the calls does its next task. -/
  | take (task : Task)
  | clear

namespace Move

def batches : Move → List (List ExecutionRecord)
  | .enter records => [records]
  | _ => []

def tasks : Move → List Task
  | .take task => [task]
  | _ => []

def isClear : Move → Bool
  | .clear => true
  | _ => false

/-- The moves after the last one that clears all. -/
def sinceClear : List Move → List Move
  | [] => []
  | move :: rest =>
    if rest.any isClear then sinceClear rest
    else if move.isClear then rest else move :: rest

/-- The batches whose appending has begun, in that order. -/
def entered (moves : List Move) : List (List ExecutionRecord) :=
  moves.flatMap batches

/-- The tasks that were done, in that order. -/
def done (moves : List Move) : List Task :=
  moves.flatMap tasks

def learned (moves : List Move) : List ExecutionRecord :=
  (done moves).flatMap Task.learned

def logged (moves : List Move) : List (List ExecutionRecord) :=
  (done moves).flatMap Task.logged

def retained (moves : List Move) : List (List ExecutionRecord) :=
  (done moves).flatMap Task.retained

end Move

namespace Shared

/-- A history that has just been opened on a directory. -/
def opened (directory : DataDirectory) (sizes : Sizes) : Shared :=
  ⟨Archive.openDuring .none directory sizes.model sizes.limit, []⟩

/-- No call is under way. -/
def Quiet (shared : Shared) : Prop :=
  ∀ call ∈ shared.calls, call = []

instance (shared : Shared) : Decidable shared.Quiet :=
  inferInstanceAs (Decidable (∀ call ∈ shared.calls, call = []))

/-- The moves that are possible, and where they lead.  An append of no records
does not reach the gate. -/
inductive Step : Shared → Move → Shared → Prop where
  | enter {archive : Archive} {calls : List (List Task)}
      {records : List ExecutionRecord} :
      records ≠ [] →
      Step ⟨archive, calls⟩ (.enter records)
        ⟨archive, calls ++ [Task.ofBatch records]⟩
  | take {archive : Archive} (before : List (List Task)) {task : Task}
      {rest : List Task} {behind : List (List Task)} :
      Step ⟨archive, before ++ (task :: rest) :: behind⟩ (.take task)
        ⟨(archive.work task).1,
          before ++ ((archive.work task).2 ++ rest) :: behind⟩
  | clear {archive : Archive} {calls : List (List Task)} :
      Quiet ⟨archive, calls⟩ →
      Step ⟨archive, calls⟩ .clear ⟨archive.perform .clear, calls⟩

/-- Moves one after the other, by any callers. -/
inductive Run : Shared → List Move → Shared → Prop where
  | nil (shared : Shared) : Run shared [] shared
  | cons {first next last : Shared} {move : Move} {moves : List Move} :
      Step first move next → Run next moves last →
      Run first (move :: moves) last

end Shared

namespace Archive

variable {archive : Archive}

/-- The outcomes of a task, with what becomes due by it. -/
inductive WorkOutcome (archive : Archive) :
    Task → Archive × List Task → Prop where
  | learned {record : ExecutionRecord} :
      WorkOutcome archive (.learn record)
        ({ archive with history := archive.history.learn [record] }, [])
  | detached {records : List ExecutionRecord} :
      archive.history.isPersistent = false →
      WorkOutcome archive (.log records) (archive, [])
  | refused {records : List ExecutionRecord} {fault : Fault} :
      archive.history.isPersistent = true →
      archive.directory.log.append records archive.history.limit =
        .error fault →
      WorkOutcome archive (.log records)
        ({ archive with history := archive.history.degrade }, [])
  | logged {records : List ExecutionRecord} {log : LogFile} :
      archive.history.isPersistent = true →
      archive.directory.log.append records archive.history.limit = .ok log →
      archive.history.unsaved + records.length < History.saveInterval →
      WorkOutcome archive (.log records)
        (⟨{ archive.history with
            unsaved := archive.history.unsaved + records.length },
          { archive.directory with log }⟩, [])
  | due {records : List ExecutionRecord} {log : LogFile} :
      archive.history.isPersistent = true →
      archive.directory.log.append records archive.history.limit = .ok log →
      History.saveInterval ≤ archive.history.unsaved + records.length →
      WorkOutcome archive (.log records)
        (⟨{ archive.history with
            unsaved := archive.history.unsaved + records.length },
          { archive.directory with log }⟩, [.save])
  | saved {profiles : ProfileFile} :
      archive.directory.profiles.save archive.history.model.snapshot =
        .ok profiles →
      WorkOutcome archive .save
        (⟨{ archive.history with unsaved := 0 },
          { archive.directory with profiles }⟩, [])
  | unsaved {fault : Fault} :
      archive.directory.profiles.save archive.history.model.snapshot =
        .error fault →
      WorkOutcome archive .save
        ({ archive with
            history :=
              { archive.history with unsaved := 0, degraded := true } }, [])
  | retained {records : List ExecutionRecord} :
      WorkOutcome archive (.retain records)
        ({ archive with history := archive.history.retain records }, [])

theorem work_outcome (archive : Archive) (task : Task) :
    WorkOutcome archive task (archive.work task) := by
  cases task with
  | learn record => exact .learned
  | log records =>
      cases persistent : archive.history.isPersistent with
      | false =>
          simp only [work, persistent]
          exact .detached persistent
      | true =>
          cases written : archive.directory.log.append records
              archive.history.limit with
          | error fault =>
              simp only [work, persistent, written, if_true]
              exact .refused persistent written
          | ok log =>
              by_cases due : History.saveInterval ≤
                  archive.history.unsaved + records.length
              · simp only [work, persistent, written, due, if_true]
                exact .due persistent written due
              · simp only [work, persistent, written, due, if_true, if_false]
                exact .logged persistent written (Nat.lt_of_not_le due)
  | save =>
      cases saved : archive.directory.profiles.save
          archive.history.model.snapshot with
      | ok profiles =>
          simp only [work, History.saveProfiles, saved]
          exact .saved saved
      | error fault =>
          simp only [work, History.saveProfiles, saved, History.degrade]
          exact .unsaved saved
  | retain records => exact .retained

end Archive

namespace Shared

theorem Run.append {first middle last : Shared} {moves more : List Move}
    (ran : first.Run moves middle) (further : middle.Run more last) :
    first.Run (moves ++ more) last := by
  induction ran with
  | nil => exact further
  | cons step _ induction => exact .cons step (induction further)

theorem run_learn (archive : Archive) (calls : List (List Task))
    (records : List ExecutionRecord) (rest : List Task) :
    Run ⟨archive, calls ++ [records.map .learn ++ rest]⟩
      (records.map fun record => .take (.learn record))
      ⟨{ archive with history := archive.history.learn records },
        calls ++ [rest]⟩ := by
  induction records generalizing archive with
  | nil => exact .nil _
  | cons record records induction =>
      exact .cons (.take calls)
        (induction { archive with history := archive.history.learn [record] })

/-- Logging and, when it is due, saving write to the directory what an append
writes there. -/
theorem run_log (archive : Archive) (calls : List (List Task))
    (records : List ExecutionRecord) (rest : List Task) :
    ∃ moves,
      Run ⟨archive, calls ++ [.log records :: rest]⟩ moves
        ⟨⟨(archive.history.writeLog archive.directory records).1,
          (archive.history.writeLog archive.directory records).2⟩,
          calls ++ [rest]⟩ := by
  have logging : Step ⟨archive, calls ++ [.log records :: rest]⟩
      (.take (.log records))
      ⟨(archive.work (.log records)).1,
        calls ++ [(archive.work (.log records)).2 ++ rest]⟩ := .take calls
  have outcome := archive.work_outcome (.log records)
  generalize archive.work (.log records) = worked at logging outcome
  cases outcome with
  | detached detached =>
      simp only [History.writeLog, detached]
      exact ⟨_, .cons logging (.nil _)⟩
  | refused persistent refused =>
      simp only [History.writeLog, persistent, refused, if_true]
      exact ⟨_, .cons logging (.nil _)⟩
  | logged persistent logged few =>
      simp only [History.writeLog, persistent, logged, if_true,
        Nat.not_le_of_lt few, if_false]
      exact ⟨_, .cons logging (.nil _)⟩
  | due persistent logged due =>
      simp only [History.writeLog, persistent, logged, if_true, due]
      exact ⟨_, .cons logging (.cons (.take calls) (.nil _))⟩

/-- A call that no other one interferes with has the effect of an append. -/
theorem run_alone (archive : Archive) (calls : List (List Task))
    {records : List ExecutionRecord} (nonempty : records ≠ []) :
    ∃ moves,
      Run ⟨archive, calls⟩ (.enter records :: moves)
        ⟨archive.perform (.append records), calls ++ [[]]⟩ := by
  have learning := run_learn archive calls records
    [.log records, .retain records]
  obtain ⟨moves, logging⟩ := run_log
    { archive with history := archive.history.learn records } calls records
    [.retain records]
  rw [archive.perform_append_of_ne_nil nonempty]
  exact ⟨_, .cons (.enter nonempty) (learning.append
    (logging.append (.cons (.take calls) (.nil _))))⟩

/-- What comes next: a new call, the next task of the call at a place, or a
clear. -/
inductive Turn where
  | enter (records : List ExecutionRecord)
  | next (place : Nat)
  | clear

/-- The move that a turn brings about, when it is possible. -/
def turn? (shared : Shared) : Turn → Option (Move × Shared)
  | .enter records =>
    if records = [] then none
    else some (.enter records,
      ⟨shared.archive, shared.calls ++ [Task.ofBatch records]⟩)
  | .next place =>
    match shared.calls.drop place with
    | (task :: rest) :: behind =>
      let (archive, due) := shared.archive.work task
      some (.take task,
        ⟨archive, shared.calls.take place ++ (due ++ rest) :: behind⟩)
    | _ => none
  | .clear =>
    if shared.Quiet then
      some (.clear, ⟨shared.archive.perform .clear, shared.calls⟩)
    else none

/-- The moves that a schedule brings about, and where they lead. -/
def schedule? (shared : Shared) : List Turn → Option (List Move × Shared)
  | [] => some ([], shared)
  | turn :: turns => do
    let (move, next) ← shared.turn? turn
    let (moves, last) ← next.schedule? turns
    return (move :: moves, last)

theorem step_of_turn? {first next : Shared} {turn : Turn} {move : Move}
    (taken : first.turn? turn = some (move, next)) :
    first.Step move next := by
  obtain ⟨archive, calls⟩ := first
  cases turn with
  | enter records =>
      rw [turn?] at taken
      split at taken
      · cases taken
      · rename_i nonempty
        cases taken
        exact .enter nonempty
  | next place =>
      rw [turn?] at taken
      split at taken
      · rename_i task rest behind found
        cases taken
        have split : calls.take place ++ (task :: rest) :: behind = calls := by
          rw [← found, List.take_append_drop]
        have step : Step ⟨archive, calls.take place ++ (task :: rest) :: behind⟩
            (.take task) _ := .take (calls.take place)
        rwa [split] at step
      · cases taken
  | clear =>
      rw [turn?] at taken
      split at taken
      · rename_i quiet
        cases taken
        exact .clear quiet
      · cases taken

theorem run_of_schedule? {first last : Shared} {turns : List Turn}
    {moves : List Move} (played : first.schedule? turns = some (moves, last)) :
    first.Run moves last := by
  induction turns generalizing first moves with
  | nil =>
      cases played
      exact .nil _
  | cons turn turns induction =>
      simp only [schedule?, Option.bind_eq_bind, Option.bind_eq_some_iff,
        Option.pure_def, Option.some.injEq, Prod.exists] at played
      obtain ⟨move, next, taken, later, end', played, same⟩ := played
      cases same
      exact .cons (step_of_turn? taken) (induction played)

theorem exists_run_of_schedule? {first : Shared}
    {property : List Move → Shared → Prop}
    [∀ moves last, Decidable (property moves last)] (turns : List Turn)
    (passes : ((first.schedule? turns).any fun (moves, last) =>
      decide (property moves last)) = true) :
    ∃ moves last, first.Run moves last ∧ property moves last := by
  obtain ⟨⟨moves, last⟩, played, passed⟩ :=
    (Option.any_eq_true _ _).mp passes
  exact ⟨moves, last, run_of_schedule? played, of_decide_eq_true passed⟩

end Shared

end Polystore
