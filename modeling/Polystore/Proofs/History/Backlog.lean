import Polystore.Proofs.History.Clearing
import Polystore.Proofs.Execution.Rereading

/-!
# The backlog of the profiles

The model observes every record at once, and the profiles in the directory
follow now and then.  Between two saves they are the snapshot that the model
had before the last few records, and the history counts how many these are.
After a crash the next history finds the pending records in the log.  Nothing
there says which they are, so it takes every record that is later than the
samples of its pair.  Where the times of a pair went back, this brings up
records again that the profiles had covered already.
-/

namespace Polystore

namespace ProfileFile

/-- The file has the document, or there is neither a file nor anything to
have in it. -/
def Keeps (file : ProfileFile) (document : ProfileDocument) : Prop :=
  file = .text document.json.text ∨ file = .absent ∧ document = []

theorem save_eq_ok {file result : ProfileFile} {document : ProfileDocument}
    (saved : file.save document = .ok result) :
    file ≠ .directory ∧ result = .text document.json.text := by
  cases file with
  | absent =>
      cases saved
      exact ⟨by simp, rfl⟩
  | text content =>
      cases saved
      exact ⟨by simp, rfl⟩
  | directory => cases saved

theorem Keeps.load {file : ProfileFile} {document : ProfileDocument}
    (keeps : file.Keeps document)
    (decoded : (Reading.document false document.json.chars).toOption.bind
      ProfileDocument.decode = some document) :
    file.load = .ok document := by
  rcases keeps with isText | ⟨isAbsent, isEmpty⟩
  · rw [isText]
    exact load_text decoded
  · rw [isAbsent, isEmpty]
    rfl

end ProfileFile

theorem History.traceable_of_readsBack {records : List ExecutionRecord}
    (distinct : (records.map (·.id)).Nodup)
    (readsBack : ∀ record ∈ records, record.ReadsBack) :
    Traceable records where
  distinct := by
    rw [List.Nodup, List.pairwise_map] at distinct ⊢
    refine distinct.imp_of_mem ?_
    intro record other isRecord isOther apart same
    have read := RecordId.decode_text (readsBack record isRecord).id
    rw [same, RecordId.decode_text (readsBack other isOther).id] at read
    exact apart (Option.some.inj read).symm
  readBack := fun record member => (readsBack record member).ofText?_text

namespace Archive

variable {sizes : Sizes} {archive : Archive} {outage : Outage}
  {appended covered pending records : List ExecutionRecord}

theorem persistent_before {operation : Operation}
    (persistent : (archive.performDuring outage
      operation).history.isPersistent = true) :
    archive.history.isPersistent = true := by
  simp only [History.isPersistent, Bool.and_eq_true, Bool.not_eq_true']
    at persistent ⊢
  obtain ⟨attached, sound⟩ := persistent
  constructor
  · exact (attached_perform ⟨archive.history,
      archive.directory.impaired outage⟩ operation).symm.trans attached
  · cases before : archive.history.degraded with
    | false => rfl
    | true =>
        have still := (performDuring_of_degraded before outage operation).1
        exact absurd (still.symm.trans sound) (by simp)

theorem recovered_of_saved {met : DataDirectory} {document : ProfileDocument}
    (saved : (archive.directory.impaired outage).profiles.save document =
      .ok met.profiles) :
    (archive.directory.recovered outage met).profiles =
      .text document.json.text := by
  obtain ⟨place, isText⟩ := ProfileFile.save_eq_ok saved
  cases out : outage.profiles with
  | true => simp [DataDirectory.impaired, out] at place
  | false => simp [DataDirectory.recovered, out, isText]

theorem performDuring_append_cases (nonempty : records ≠ [])
    (persistent : (archive.performDuring outage
      (.append records)).history.isPersistent = true) :
    let after := archive.performDuring outage (.append records)
    archive.history.unsaved + records.length < History.saveInterval ∧
        after.history.unsaved = archive.history.unsaved + records.length ∧
        after.directory.profiles = archive.directory.profiles ∨
      after.history.unsaved = 0 ∧
        after.directory.profiles =
          .text after.history.model.snapshot.json.text := by
  have outcome := History.writeLog_outcome (archive.history.learn records)
    (archive.directory.impaired outage) records
  simp only [performDuring, perform,
    History.append_of_ne_nil archive.history _ nonempty] at persistent ⊢
  generalize (archive.history.learn records).writeLog
    (archive.directory.impaired outage) records = written
    at outcome persistent ⊢
  cases outcome with
  | detached detached =>
      exact absurd (detached.symm.trans persistent) (by simp)
  | refused => simp [History.isPersistent, History.retain, History.degrade]
      at persistent
  | logged _ _ few =>
      refine .inl ⟨few, rfl, ?_⟩
      cases out : outage.profiles <;>
        simp [DataDirectory.recovered, DataDirectory.impaired, out]
  | saved _ _ _ saved => exact .inr ⟨rfl, recovered_of_saved saved⟩
  | unsaved => simp [History.isPersistent, History.retain] at persistent

theorem performDuring_flush_cases
    (persistent : (archive.performDuring outage
      .flush).history.isPersistent = true) :
    let after := archive.performDuring outage .flush
    archive.history.unsaved = 0 ∧ after = archive ∨
      after.history.unsaved = 0 ∧
        after.directory.profiles =
          .text after.history.model.snapshot.json.text := by
  have outcome := History.flush_outcome archive.history
    (archive.directory.impaired outage)
  have before := persistent_before persistent
  have flushed : archive.performDuring outage .flush =
      ⟨(archive.history.flush (archive.directory.impaired outage)).1,
        archive.directory.recovered outage
          (archive.history.flush
            (archive.directory.impaired outage)).2.1⟩ := rfl
  rw [flushed] at persistent ⊢
  generalize archive.history.flush (archive.directory.impaired outage) =
    result at outcome persistent ⊢
  obtain ⟨history, directory, report⟩ := result
  simp only at outcome persistent ⊢
  cases outcome with
  | idle nothing =>
      exact .inl ⟨nothing before, by rw [recovered_impaired]⟩
  | saved _ saved => exact .inr ⟨rfl, recovered_of_saved saved⟩
  | unsaved => simp [History.isPersistent] at persistent

/-- The profiles were saved when the covered records had been observed, and
the pending ones were observed since. -/
structure Lags (sizes : Sizes) (covered pending : List ExecutionRecord)
    (archive : Archive) : Prop where
  model : archive.history.model =
    History.observeAll sizes.model (covered ++ pending)
  unsaved : archive.history.unsaved = pending.length
  few : pending.length < History.saveInterval
  keeps : archive.directory.profiles.Keeps
    (History.observeAll sizes.model covered).snapshot

theorem lags_of_saved
    (model : archive.history.model =
      History.observeAll sizes.model appended)
    (saved : archive.history.unsaved = 0 ∧
      archive.directory.profiles =
        .text archive.history.model.snapshot.json.text) :
    Lags sizes appended [] archive where
  model := by rw [List.append_nil, model]
  unsaved := saved.1
  few := by decide
  keeps := .inl (model ▸ saved.2)

theorem lags_start (sizes : Sizes) :
    Lags sizes [] [] (start sizes .directory) := by
  rw [start_directory]
  exact {
    model := rfl
    unsaved := rfl
    few := by decide
    keeps := .inr ⟨rfl, rfl⟩ }

theorem Lags.append (lags : Lags sizes covered pending archive)
    (persistent : (archive.performDuring outage
      (.append records)).history.isPersistent = true) :
    ∃ covered' pending',
      covered' ++ pending' = (covered ++ pending) ++ records ∧
      Lags sizes covered' pending'
        (archive.performDuring outage (.append records)) := by
  by_cases none : records = []
  · subst records
    rw [performDuring_append_nil, List.append_nil]
    exact ⟨covered, pending, rfl, lags⟩
  have model : (archive.performDuring outage
      (.append records)).history.model =
        History.observeAll sizes.model ((covered ++ pending) ++ records) := by
    rw [History.observeAll_append, ← lags.model]
    exact History.model_append archive.history
      (archive.directory.impaired outage) records
  rcases performDuring_append_cases none persistent with
    ⟨few, counted, unchanged⟩ | saved
  · have length : archive.history.unsaved + records.length =
        (pending ++ records).length := by
      rw [lags.unsaved, List.length_append]
    refine ⟨covered, pending ++ records, (List.append_assoc ..).symm, ?_⟩
    exact {
      model := by rw [model, List.append_assoc]
      unsaved := counted.trans length
      few := length ▸ few
      keeps := unchanged ▸ lags.keeps }
  · exact ⟨_, [], List.append_nil _, lags_of_saved model saved⟩

theorem Lags.flush (lags : Lags sizes covered pending archive)
    (persistent : (archive.performDuring outage
      .flush).history.isPersistent = true) :
    Lags sizes (covered ++ pending) []
      (archive.performDuring outage .flush) := by
  rcases performDuring_flush_cases persistent with ⟨nothing, same⟩ | saved
  · have none : pending = [] :=
      List.length_eq_zero_iff.mp (lags.unsaved.symm.trans nothing)
    subst none
    rw [same, List.append_nil]
    exact lags
  · have model : (archive.performDuring outage .flush).history.model =
        archive.history.model :=
      History.model_flush archive.history (archive.directory.impaired outage)
    exact lags_of_saved (model.trans lags.model) saved

theorem Lags.clear (lags : Lags sizes covered pending archive)
    (persistent : (archive.performDuring outage
      .clear).history.isPersistent = true) :
    Lags sizes [] [] (archive.performDuring outage .clear) := by
  have emptied := emptied_clear archive outage persistent
  have model : (archive.performDuring outage .clear).history.model =
      archive.history.model.clear :=
    (History.clear_outcome archive.history
      (archive.directory.impaired outage)).sameMemory.model
  exact {
    model := by
      simp only [model, lags.model, Model.clear, History.capacity_observeAll,
        History.saturation_observeAll]
      rfl
    unsaved := emptied.unsaved
    few := by decide
    keeps := .inr ⟨emptied.profiles, rfl⟩ }

/-- As long as the directory is written, the appended records are the ones
that the profiles cover and behind them the pending ones. -/
def KeepsUp (sizes : Sizes) (appended : List ExecutionRecord)
    (archive : Archive) : Prop :=
  archive.history.isPersistent = true →
    ∃ covered pending, covered ++ pending = appended ∧
      Lags sizes covered pending archive

theorem KeepsUp.run (keepsUp : KeepsUp sizes appended archive)
    (steps : List (Operation × Outage)) :
    KeepsUp sizes (Operation.appendedFrom appended (steps.map Prod.fst))
      (archive.run steps) := by
  -- A history that is persistent after a step was so before, so the split of
  -- the records before the step is there to be continued.
  induction steps generalizing archive appended with
  | nil => exact keepsUp
  | cons step steps induction =>
      obtain ⟨operation, outage⟩ := step
      cases operation with
      | append records =>
          apply induction
          intro persistent
          obtain ⟨covered, pending, rfl, lags⟩ :=
            keepsUp (persistent_before persistent)
          exact lags.append persistent
      | clear =>
          apply induction
          intro persistent
          obtain ⟨_, _, -, lags⟩ := keepsUp (persistent_before persistent)
          exact ⟨[], [], rfl, lags.clear persistent⟩
      | flush =>
          apply induction
          intro persistent
          obtain ⟨covered, pending, rfl, lags⟩ :=
            keepsUp (persistent_before persistent)
          exact ⟨_, [], List.append_nil _, lags.flush persistent⟩

theorem keepsUp_run (sizes : Sizes) (steps : List (Operation × Outage)) :
    KeepsUp sizes (Operation.appended (steps.map Prod.fst))
      ((start sizes .directory).run steps) :=
  KeepsUp.run (fun _ => ⟨[], [], rfl, lags_start sizes⟩) steps

/-- Nothing is pending when a run ends with a flush or a clear. -/
theorem unsaved_run_of_last {steps : List (Operation × Outage)}
    (persistent : ((start sizes .directory).run steps).history.isPersistent =
      true)
    (last : steps.getLast? = some (.flush, outage) ∨
      steps.getLast? = some (.clear, outage)) :
    ((start sizes .directory).run steps).history.unsaved = 0 := by
  have split (before : List (Operation × Outage)) (operation : Operation) :
      (start sizes .directory).run (before ++ [(operation, outage)]) =
        ((start sizes .directory).run before).performDuring outage
          operation := List.foldl_append
  rcases last with isFlush | isClear
  · obtain ⟨before, rfl⟩ := List.getLast?_eq_some_iff.mp isFlush
    rw [split] at persistent ⊢
    obtain ⟨_, _, -, lags⟩ :=
      keepsUp_run sizes before (persistent_before persistent)
    exact (lags.flush persistent).unsaved
  · obtain ⟨before, rfl⟩ := List.getLast?_eq_some_iff.mp isClear
    rw [split] at persistent ⊢
    exact (emptied_clear _ outage persistent).unsaved

/-- Profiles cover the records that they were learned from when the times of
no pair went back. -/
theorem filter_isNews_of_inOrder (sizes : Sizes) (model : Model)
    (ordered : covered.Pairwise ExecutionRecord.InOrder) :
    covered.filter (History.isNews
      (model.restore (History.observeAll sizes.model covered).snapshot)) =
        [] := by
  have settled : (History.observeAll sizes.model covered).Settled :=
    (Model.settled_empty _ _).observeAll covered
  have covers : ProfileDocument.Covers
      (History.observeAll sizes.model covered).snapshot covered := by
    have fromNone : ProfileDocument.Covers sizes.model.snapshot [] := by
      simp [ProfileDocument.Covers]
    simpa using Model.covers_observeAll fromNone (by simpa using ordered)
  have restored := Model.covers_restore model settled.sorted covers
  apply List.filter_eq_nil_iff.mpr
  intro record member
  simp [Model.not_isNews_of_covers restored member]

/-- The next history learns pending records, and covered ones that are news
to the saved profiles. -/
theorem reopen_of_saved {document : ProfileDocument} (next : Sizes)
    (retained : archive.history.records.Sublist (covered ++ pending))
    (log : archive.directory.log =
      .table (archive.history.records.map LogRow.ofRecord))
    (readBack : ∀ record ∈ archive.history.records,
      ExecutionRecord.ofText? record.text = some record)
    (loads : archive.directory.profiles.load = .ok document) :
    let known := next.model.restore document
    let reopened := (archive.reopen next).history
    ∃ replayed : List ExecutionRecord,
      replayed.Sublist (covered.filter (History.isNews known) ++ pending) ∧
      reopened.model = History.observeAll known replayed ∧
      reopened.unsaved = replayed.length := by
  intro known reopened
  have opened := Archive.reopen_eq next readBack log loads
  refine ⟨(archive.history.records.rtake (max next.limit 1)).filter
    (History.isNews known), ?_, ?_, ?_⟩
  · have kept := ((List.rtake_sublist (max next.limit 1)
      archive.history.records).trans retained).filter (History.isNews known)
    rw [List.filter_append] at kept
    exact kept.trans
      ((List.Sublist.refl _).append (List.filter_sublist ..))
  · simp only [reopened, opened, known]
  · simp only [reopened, opened, known]

theorem readsBack_specimen {number : Nat} {seconds : Int} {cost : Float}
    (fits : number < 2 ^ 128) (readsCost : Json.ReadsBack cost)
    (readsTime : Instant.decode (.string (Instant.text ⟨seconds, 0⟩)) =
      some ⟨seconds, 0⟩) :
    (ExecutionRecord.specimen number seconds cost).ReadsBack where
  id := fits
  metrics := ⟨readsCost, readsCost, readsCost, readsCost⟩
  countable := Nat.zero_le _
  timestamp := readsTime

theorem readsBack_one : Json.ReadsBack 1.0 :=
  Json.readsBack_of_read (by decide +kernel) (by decide +kernel)

/-- A model that has seen a single record. -/
def observedOnce : Model :=
  History.observeAll (.empty 1 50) [.specimen 0 5 1.0]

theorem decoded_observedOnce :
    (Reading.document false observedOnce.snapshot.json.chars).toOption.bind
      ProfileDocument.decode = some observedOnce.snapshot := by
  decide +kernel

/-- As many records of one time as the profiles are saved after, and behind
them one of an earlier time. -/
def returning : List ExecutionRecord :=
  (List.range (History.saveInterval + 1)).map fun number =>
    .specimen number (if number < History.saveInterval then 10 else 5) 1.0

theorem readsBack_returning : ∀ record ∈ returning, record.ReadsBack := by
  intro record member
  obtain ⟨number, inRange, rfl⟩ := List.mem_map.mp member
  have fits : number < 2 ^ 128 :=
    (List.mem_range.mp inRange).trans (by decide)
  by_cases early : number < History.saveInterval
  · rw [if_pos early]
    exact readsBack_specimen fits readsBack_one (by decide +kernel)
  · rw [if_neg early]
    exact readsBack_specimen fits readsBack_one (by decide +kernel)

theorem traceable_returning : History.Traceable returning :=
  History.traceable_of_readsBack (by decide +kernel) readsBack_returning

/-- A first batch that is due for saving is written and saved as a whole. -/
theorem performDuring_append_start (sizes : Sizes)
    (traceable : History.Traceable records)
    (due : History.saveInterval ≤ records.length)
    (fits : records.length ≤ sizes.limit) :
    (start sizes .directory).performDuring .none (.append records) =
      ⟨{ records
         model := History.observeAll sizes.model records
         limit := sizes.limit
         attached := true
         degraded := false
         unsaved := 0 },
        ⟨.table (records.map LogRow.ofRecord),
          .text (History.observeAll sizes.model
            records).snapshot.json.text⟩⟩ := by
  have nonempty : records ≠ [] := by
    intro none
    simp [none, History.saveInterval] at due
  have limit : max sizes.limit 1 = sizes.limit := by
    have positive : 0 < History.saveInterval := by decide
    omega
  have persistent : (start sizes .directory).history.isPersistent = true := by
    rw [start_directory]
    rfl
  have place : (start sizes .directory).directory.profiles ≠ .directory := by
    simp [start_directory]
  have taken : (start sizes .directory).directory.log.append records
      (start sizes .directory).history.limit =
        .ok (.table (records.map LogRow.ofRecord)) := by
    have behind : History.Traceable ([] ++ records) := traceable
    have appended := behind.append sizes.limit
    rw [List.nil_append, List.rtake_of_length_le fits] at appended
    rw [start_directory, limit]
    exact appended
  rcases perform_append_cases nonempty persistent place taken with
    ⟨few, -⟩ | saved
  · rw [start_directory, Nat.zero_add] at few
    exact absurd due (Nat.not_le_of_lt few)
  · have kept : ([] ++ records).rtake sizes.limit = records :=
      List.rtake_of_length_le fits
    rw [start_directory, limit] at saved ⊢
    simp only [History.learn, History.retain_eq, kept] at saved
    exact saved

/-- In every run that the directory survives, the profiles in it are the
snapshot that the model had before the last `unsaved` records, fewer than the
profiles are saved after and none behind a flush or a clear.  The next history
learns no other records again than these and those that are later than all
saved samples of their pair, and no others than these when the times of no
pair went back. -/
theorem profiles_lag_by_unsaved (sizes : Sizes)
    (steps : List (Operation × Outage))
    (sound : ((start sizes .directory).run steps).history.degraded = false) :
    let archive := (start sizes .directory).run steps
    let unsaved := archive.history.unsaved
    ∃ covered pending : List ExecutionRecord,
      covered ++ pending = Operation.appended (steps.map Prod.fst) ∧
      pending.length = unsaved ∧
      let saved := History.observeAll sizes.model covered
      archive.history.model = History.observeAll saved pending ∧
      archive.directory.profiles.Keeps saved.snapshot ∧
      unsaved < History.saveInterval ∧
      (∀ outage, steps.getLast? = some (.flush, outage) ∨
        steps.getLast? = some (.clear, outage) → unsaved = 0) ∧
      ∀ next : Sizes,
        archive.directory.profiles.load = .ok saved.snapshot →
        (∀ record ∈ archive.history.records,
          ExecutionRecord.ofText? record.text = some record) →
        let known := next.model.restore saved.snapshot
        let reopened := (archive.reopen next).history
        ∃ replayed : List ExecutionRecord,
          replayed.Sublist
            (covered.filter (History.isNews known) ++ pending) ∧
          reopened.model = History.observeAll known replayed ∧
          reopened.unsaved = replayed.length ∧
          (covered.Pairwise ExecutionRecord.InOrder →
            replayed.length ≤ unsaved) := by
  intro archive unsaved
  have retains : Retains sizes .directory
      (Operation.appended (steps.map Prod.fst)) archive :=
    (retains_start sizes .directory).run steps
  have persistent : archive.history.isPersistent = true := by
    simp only [History.isPersistent, retains.holds.attached rfl, archive,
      sound, Bool.not_false, Bool.and_self]
  obtain ⟨covered, pending, same, lags⟩ := keepsUp_run sizes steps persistent
  refine ⟨covered, pending, same, lags.unsaved.symm, ?_, lags.keeps,
    lags.unsaved.trans_lt lags.few,
    fun _ last => unsaved_run_of_last persistent last, ?_⟩
  · rw [← History.observeAll_append]
    exact lags.model
  · intro next loads readBack known reopened
    have retained :
        archive.history.records.Sublist (covered ++ pending) := by
      rw [retains.holds.records, same]
      exact List.rtake_sublist _ _
    obtain ⟨replayed, among, model, count⟩ := reopen_of_saved next retained
      (retains.logged persistent) readBack loads
    refine ⟨replayed, among, model, count, ?_⟩
    intro ordered
    rw [filter_isNews_of_inOrder sizes next.model ordered, List.nil_append]
      at among
    exact among.length_le.trans_eq lags.unsaved.symm

/-- One record was saved by a flush and one is pending, so this is the only
one that is learned again. -/
theorem profiles_lag_specimen :
    let archive := (start ⟨64, 1, 50⟩ .directory).run
      [(.append [.specimen 0 5 1.0], .none), (.flush, .none),
        (.append [.specimen 1 10 1.0], .none)]
    archive.history.degraded = false ∧ archive.history.unsaved = 1 ∧
      archive.directory.profiles.Keeps observedOnce.snapshot ∧
      (archive.reopen ⟨64, 1, 50⟩).history.unsaved ≤ 1 := by
  intro archive
  have sound : archive.history.degraded = false := by decide +kernel
  have isPending : archive.history.unsaved = 1 := by decide +kernel
  have records : archive.history.records =
      [.specimen 0 5 1.0, .specimen 1 10 1.0] := by decide +kernel
  obtain ⟨covered, pending, same, length, -, keeps, -, -, reopens⟩ :=
    profiles_lag_by_unsaved ⟨64, 1, 50⟩ _ sound
  obtain ⟨rfl, rfl⟩ :
      covered = [.specimen 0 5 1.0] ∧ pending = [.specimen 1 10 1.0] :=
    List.append_inj' same (length.trans isPending)
  have readBack : ∀ record ∈ archive.history.records,
      ExecutionRecord.ofText? record.text = some record := by
    rw [records, List.forall_mem_cons, List.forall_mem_singleton]
    exact ⟨(readsBack_specimen (by decide) readsBack_one
        (by decide +kernel)).ofText?_text,
      (readsBack_specimen (by decide) readsBack_one
        (by decide +kernel)).ofText?_text⟩
  obtain ⟨replayed, -, -, count, bound⟩ :=
    reopens ⟨64, 1, 50⟩ (keeps.load decoded_observedOnce) readBack
  refine ⟨sound, isPending, keeps, ?_⟩
  rw [count]
  exact (bound (by simp)).trans_eq isPending

/-- The records are written as one batch, after which the profiles are saved,
so nothing is pending.  But their window has room for the last sample only,
and all other records are later than that, so these are learned again. -/
theorem replay_exceeds_backlog :
    let archive := (start ⟨1000, 1, 50⟩ .directory).run
      [(.append returning, .none)]
    archive.history.degraded = false ∧ archive.history.unsaved = 0 ∧
      archive.directory.profiles.load = .ok archive.history.model.snapshot ∧
      ¬ (archive.reopen ⟨1000, 100, 50⟩).history.unsaved ≤
        History.saveInterval - 1 := by
  intro archive
  have known : History.observeAll (Sizes.model ⟨1000, 1, 50⟩) returning =
      observedOnce := by decide +kernel
  have batch : archive = _ :=
    performDuring_append_start ⟨1000, 1, 50⟩ traceable_returning
      (by decide) (by decide)
  rw [known] at batch
  have loads : archive.directory.profiles.load = .ok observedOnce.snapshot := by
    rw [batch]
    exact ProfileFile.load_text decoded_observedOnce
  have opened := Archive.reopen_eq ⟨1000, 100, 50⟩
    traceable_returning.readBack (batch ▸ rfl) loads
  refine ⟨batch ▸ rfl, batch ▸ rfl, ?_, ?_⟩
  · rw [loads, batch]
  · rw [opened]
    decide +kernel

end Archive

end Polystore
