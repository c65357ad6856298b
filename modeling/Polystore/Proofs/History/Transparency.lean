import Polystore.Proofs.History.Outcomes

/-!
# What readers see of the directory

A reader of a history sees its records and what was learned from them.  Both
depend on the requests alone: a history in a directory gives the same answers
as one in memory, whatever the directory refuses and whenever it does.
-/

namespace Polystore

/-- What a reader asks of a history. -/
inductive Question where
  | records (filter : RecordFilter)
  | statistics (filter : RecordFilter)
  | size
  | prediction (signature : Signature)
  | sampleCount (signature : Signature)
  | profile (signature : Signature) (store : String)

/-- A change of a history, or a question about it. -/
inductive Request where
  | change (operation : Operation)
  | ask (question : Question)

inductive Reading where
  | done
  | records (found : List ExecutionRecord)
  | statistics (statistics : Statistics)
  | size (count : Nat)
  | prediction (prediction : Option Prediction)
  | sampleCount (count : Nat)
  | profile (profile : Option Profile)

namespace History

def read (history : History) : Question → Reading
  | .records filter => .records (history.query filter)
  | .statistics filter => .statistics (history.statistics filter)
  | .size => .size history.size
  | .prediction signature => .prediction (history.model.predict? signature)
  | .sampleCount signature => .sampleCount (history.model.sampleCount signature)
  | .profile signature store => .profile (history.model.profile? signature store)

/-- What an operation makes of a history when nothing is kept elsewhere. -/
def after (history : History) : Operation → History
  | .append records =>
    if records.isEmpty then history
    else (history.learn records).retain records
  | .clear => { history with records := [], model := history.model.clear }
  | .flush => history

/-- Two histories hold the same, wherever they keep it. -/
structure SameContents (left right : History) : Prop where
  records : left.records = right.records
  model : left.model = right.model
  limit : left.limit = right.limit

variable {left middle right : History}

theorem SameContents.trans (first : SameContents left middle)
    (second : SameContents middle right) : SameContents left right where
  records := first.records.trans second.records
  model := first.model.trans second.model
  limit := first.limit.trans second.limit

theorem SameContents.symm (same : SameContents left right) :
    SameContents right left where
  records := same.records.symm
  model := same.model.symm
  limit := same.limit.symm

theorem SameMemory.sameContents (same : SameMemory left right) :
    SameContents right left where
  records := same.records
  model := same.model
  limit := same.limit

theorem SameContents.read (same : SameContents left right)
    (question : Question) : left.read question = right.read question := by
  cases question with
  | records filter => simp only [History.read, query, same.records]
  | statistics filter => simp only [History.read, statistics, same.records]
  | size => simp only [History.read, size, same.records]
  | prediction signature => simp only [History.read, same.model]
  | sampleCount signature => simp only [History.read, same.model]
  | profile signature store => simp only [History.read, same.model]

theorem SameContents.after (same : SameContents left right)
    (operation : Operation) :
    SameContents (left.after operation) (right.after operation) := by
  cases operation with
  | append records =>
      by_cases none : records.isEmpty = true
      · simpa only [History.after, none, if_true] using same
      · simp only [History.after, none]
        constructor
        · simp [retain, learn, same.records, same.limit]
        · simp [retain, learn, same.model]
        · exact same.limit
  | clear =>
      constructor
      · rfl
      · simp only [History.after, same.model]
      · exact same.limit
  | flush => exact same

/-- From a log without rows nothing is read but the saved profiles. -/
theorem openIn_of_empty_log {directory : DataDirectory} {model : Model}
    {limit : Nat} (opens : directory.log.opened = .ok (.table [])) :
    openIn directory model limit =
      ({ records := [], model := restored model directory.profiles
         limit := max limit 1, attached := true, degraded := false
         unsaved := 0 }, { directory with log := .table [] }) := by
  have loads : (LogFile.table []).load (max limit 1) = .ok [] := by
    simp [LogFile.load, LogFile.rows, bind, Except.bind, pure, Except.pure]
  simp only [openIn, opens, loads]
  rfl

end History

namespace Archive

/-- A history opened in a directory in which nothing was kept yet, while parts
of it may be out of order. -/
def opened (sizes : Sizes) (outage : Outage) : Archive :=
  let met := DataDirectory.fresh.impaired outage
  let (history, directory) := History.openIn met sizes.model sizes.limit
  ⟨history, DataDirectory.fresh.recovered outage directory⟩

/-- One request, during an outage.  Only what a flush comes to is about the
directory, and it is no answer to a reader. -/
def serve (outage : Outage) (archive : Archive) :
    Request → Archive × Option Reading
  | .change .flush => (archive.performDuring outage .flush, none)
  | .change operation => (archive.performDuring outage operation, some .done)
  | .ask question => (archive, some (archive.history.read question))

/-- The answers to requests in order, each made during an outage. -/
def answers (archive : Archive) : List (Request × Outage) → List Reading
  | [] => []
  | (request, outage) :: rest =>
    let (next, answer) := archive.serve outage request
    answer.toList ++ next.answers rest

/-- Whatever the directory does, an operation changes the contents in the one
way. -/
theorem sameContents_perform (archive : Archive) (operation : Operation) :
    (archive.perform operation).history.SameContents
      (archive.history.after operation) := by
  cases operation with
  | append records =>
      by_cases none : records = []
      · subst none
        exact ⟨rfl, rfl, rfl⟩
      · have written := (History.writeLog_outcome
          (archive.history.learn records) archive.directory records).sameMemory
        simp only [perform, History.append_of_ne_nil _ _ none, History.after,
          List.isEmpty_iff, none, if_false]
        exact ⟨by simp only [History.retain, written.records, written.limit],
          written.model, written.limit⟩
  | clear =>
      exact (History.clear_outcome archive.history
        archive.directory).sameMemory.sameContents
  | flush =>
      exact (History.flush_outcome archive.history
        archive.directory).sameMemory.1.sameContents

theorem sameContents_performDuring {left right : Archive}
    (same : left.history.SameContents right.history)
    (first second : Outage) (operation : Operation) :
    (left.performDuring first operation).history.SameContents
      (right.performDuring second operation).history :=
  (sameContents_perform ⟨left.history, left.directory.impaired first⟩
    operation).trans <|
    (same.after operation).trans
      (sameContents_perform ⟨right.history, right.directory.impaired second⟩
        operation).symm

/-- A directory without contents adds nothing to a history, and one that
cannot be used leaves it as in memory. -/
theorem sameContents_opened (sizes : Sizes) (outage : Outage) :
    (opened sizes outage).history.SameContents
      (start sizes .memory).history := by
  obtain ⟨log, profiles⟩ := outage
  cases log with
  | true => exact ⟨rfl, rfl, rfl⟩
  | false =>
      have opens :
          ((DataDirectory.fresh.impaired ⟨false, profiles⟩).log).opened =
          .ok (.table []) := rfl
      have known : History.restored sizes.model
          (DataDirectory.fresh.impaired ⟨false, profiles⟩).profiles =
          sizes.model := by
        cases profiles with
        | true => rfl
        | false => rfl
      simp only [opened, History.openIn_of_empty_log opens, known]
      exact ⟨rfl, rfl, rfl⟩

/-- One request leaves the contents alike and is answered alike. -/
theorem serve_of_sameContents {left right : Archive}
    (same : left.history.SameContents right.history)
    (first second : Outage) (request : Request) :
    (left.serve first request).1.history.SameContents
        (right.serve second request).1.history ∧
      (left.serve first request).2 = (right.serve second request).2 := by
  cases request with
  | change operation =>
      have changed := sameContents_performDuring same first second operation
      cases operation with
      | append records => exact ⟨changed, rfl⟩
      | clear => exact ⟨changed, rfl⟩
      | flush => exact ⟨changed, rfl⟩
  | ask question => exact ⟨same, congrArg some (same.read question)⟩

theorem answers_of_sameContents {left right : Archive}
    (same : left.history.SameContents right.history)
    (steps : List (Request × Outage)) :
    left.answers steps =
      right.answers (steps.map fun step => (step.1, Outage.none)) := by
  induction steps generalizing left right with
  | nil => rfl
  | cons step steps induction =>
      obtain ⟨request, outage⟩ := step
      obtain ⟨next, answer⟩ := serve_of_sameContents same outage .none request
      simp only [List.map_cons, answers, answer, induction next]

/-- A history in a directory answers every sequence of requests as a history
in memory does, whichever writes and removals the directory refuses and even
when it could not be opened. -/
theorem answers_in_directory_eq_in_memory (sizes : Sizes) (opening : Outage)
    (steps : List (Request × Outage)) :
    (opened sizes opening).answers steps =
      (start sizes .memory).answers
        (steps.map fun step => (step.1, Outage.none)) :=
  answers_of_sameContents (sameContents_opened sizes opening) steps

end Archive

end Polystore
