import Polystore.Proofs.History.Retention
import Polystore.Proofs.History.Reopening

/-!
# Restart in good order

A history that is closed in good order leaves its whole model behind.  The
next history looks through the log all the same, and it tells what it knows
already from what is news by the newest time that is still in a window.  A
retained record that is newer than all of its window is therefore learned a
second time, which happens when records are not appended in the order of
their times and the newest one has left the window.
-/

namespace Polystore

namespace History

theorem last_mem_window {capacity : Nat} {samples front : List Sample}
    {last : Sample} {window : Window Sample}
    (left : Window.ofSamples? capacity (samples ++ (front ++ [last])) =
      some window) : last ∈ window.samples := by
  have kept := Window.samples_of_ofSamples?_eq_some left
  have isLast : window.samples.getLast? = some last := by
    rw [kept, List.getLast?_rtake (by omega)]
    simp
  exact List.mem_of_getLast? isLast

/-- What is in the window after the news of a pair were learned was there
before only when there were no news: the last of them would be in the window,
and so be no news. -/
theorem samplesOf_news_eq_nil {model : Model} {samples : List Sample}
    {records : List ExecutionRecord} {signature : Signature} {store : String}
    (same : Window.ofSamples? model.capacity (samples ++
        samplesOf signature store (records.filter (isNews model))) =
      (model.profile? signature store).map (·.window)) :
    samplesOf signature store (records.filter (isNews model)) = [] := by
  by_contra nonempty
  obtain ⟨front, last, split⟩ :=
    (List.eq_nil_or_concat _).resolve_left nonempty
  rw [List.concat_eq_append] at split
  obtain ⟨newest, kept, concerns, isSample⟩ :=
    exists_of_mem_samplesOf (split ▸ List.mem_append_right front
      (List.mem_singleton_self last))
  have isNewest := (List.mem_filter.mp kept).2
  obtain ⟨rfl, rfl⟩ := ExecutionRecord.concerns_iff.mp concerns
  rw [split] at same
  obtain ⟨profile, found, window⟩ :=
    Option.map_eq_some_iff.mp (same.symm.trans
      (Window.ofSamples?_of_ne_nil _ (by simp)))
  rw [found, Option.map_some] at same
  have notNews : isNews model newest = false :=
    isNews_eq_false_iff.mpr ⟨profile, found, last, last_mem_window same, by
      rw [← isSample]
      exact Instant.lt_self newest.timestamp⟩
  rw [notNews] at isNewest
  cases isNewest

/-- Learning the news among some records leaves the window of a pair alone
just when none of them is news to that pair. -/
theorem window_observeAll_news_iff {model : Model}
    {appended : List ExecutionRecord} (remembers : model.Remembers appended)
    (records : List ExecutionRecord) (signature : Signature)
    (store : String) :
    (((observeAll model (records.filter (isNews model))).profile? signature
        store).map (·.window) =
      (model.profile? signature store).map (·.window)) ↔
    ∀ record ∈ records, record.concerns signature store = true →
      isNews model record = false := by
  have after := remembers.observeAll (records.filter (isNews model)) signature
    store
  have before := remembers signature store
  rw [capacity_observeAll, samplesOf_append] at after
  rw [after]
  constructor
  · intro same record member concerns
    by_contra isNew
    have nonempty : samplesOf signature store
        (records.filter (isNews model)) ≠ [] := by
      refine samplesOf_ne_nil_iff.mpr ⟨record, ?_, ?_⟩
      · exact List.mem_filter.mpr ⟨member, by simpa using isNew⟩
      · exact ExecutionRecord.concerns_iff.mp concerns
    exact nonempty (samplesOf_news_eq_nil same)
  · intro noNews
    have nothing : samplesOf signature store
        (records.filter (isNews model)) = [] := by
      apply List.eq_nil_iff_forall_not_mem.mpr
      intro sample member
      obtain ⟨record, kept, concerns, _⟩ := exists_of_mem_samplesOf member
      obtain ⟨recordMember, news⟩ := List.mem_filter.mp kept
      rw [noNews record recordMember concerns] at news
      cases news
    rw [nothing, List.append_nil, before]

end History

namespace Archive

variable {sizes : Sizes} {appended : List ExecutionRecord}
  {archive : Archive}

theorem Retains.append_ok
    (retains : Retains sizes .directory appended archive)
    (persistent : archive.history.isPersistent = true)
    {more : List ExecutionRecord}
    (traceable : History.Traceable (appended ++ more)) :
    archive.directory.log.append more archive.history.limit =
      .ok (.table (((archive.history.records ++ more).rtake
        archive.history.limit).map LogRow.ofRecord)) := by
  have sublist : archive.history.records.Sublist appended := by
    rw [retains.holds.records]
    exact List.rtake_sublist _ _
  rw [retains.logged persistent]
  exact (traceable.sublist (sublist.append (List.Sublist.refl more))).append _

/-- Nothing has failed, and what does not count as unsaved is in the document
of profiles. -/
structure Undisturbed (archive : Archive) : Prop where
  persistent : archive.history.isPersistent = true
  place : archive.directory.profiles ≠ .directory
  settled : archive.history.model.Settled
  saved : archive.history.unsaved = 0 →
    archive.directory.profiles.load = .ok archive.history.model.snapshot

theorem undisturbed_start (sizes : Sizes) :
    Undisturbed (start sizes .directory) := by
  rw [start_directory]
  exact {
    persistent := rfl
    place := by simp
    settled := Model.settled_clear sizes.model
    saved := fun _ => rfl }

namespace Undisturbed

theorem clear (undisturbed : Undisturbed archive)
    (retains : Retains sizes .directory appended archive) :
    Undisturbed (archive.perform .clear) := by
  rw [perform_clear_eq undisturbed.persistent
    (retains.logged undisturbed.persistent) undisturbed.place]
  exact {
    persistent := undisturbed.persistent
    place := by simp
    settled := Model.settled_clear archive.history.model
    saved := fun _ => rfl }

/-- A flush that changes nothing finds the document up to date, so in the end
it always is. -/
theorem flush (undisturbed : Undisturbed archive)
    (readsBack : (archive.perform .flush).ProfilesReadBack) :
    Undisturbed (archive.perform .flush) ∧
      (archive.perform .flush).history.unsaved = 0 := by
  rcases perform_flush_cases undisturbed.persistent undisturbed.place with
    ⟨nothing, unchanged⟩ | saved
  · rw [unchanged]
    exact ⟨undisturbed, nothing⟩
  · rw [saved] at readsBack ⊢
    refine ⟨?_, rfl⟩
    exact {
      persistent := undisturbed.persistent
      place := by simp
      settled := undisturbed.settled
      saved := fun _ => readsBack rfl }

theorem append (undisturbed : Undisturbed archive)
    (retains : Retains sizes .directory appended archive)
    {more : List ExecutionRecord}
    (traceable : History.Traceable (appended ++ more))
    (readsBack : (archive.perform (.append more)).ProfilesReadBack) :
    Undisturbed (archive.perform (.append more)) := by
  by_cases none : more = []
  · subst none
    exact undisturbed
  have settled := undisturbed.settled.observeAll more
  rcases perform_append_cases none undisturbed.persistent undisturbed.place
    (retains.append_ok undisturbed.persistent traceable) with
    ⟨_, logged⟩ | saved
  · rw [logged]
    exact {
      persistent := undisturbed.persistent
      place := undisturbed.place
      settled
      saved := by
        intro nothing
        have some := List.length_pos_iff.mpr none
        have counted : archive.history.unsaved + more.length = 0 := nothing
        omega }
  · rw [saved] at readsBack ⊢
    exact {
      persistent := undisturbed.persistent
      place := by simp
      settled
      saved := fun _ => readsBack rfl }

end Undisturbed

theorem Undisturbed.follow (undisturbed : Undisturbed archive)
    (retains : Retains sizes .directory appended archive)
    {operations : List Operation}
    (traceable : History.Traceable
      (appended ++ Event.recorded (operations.map .operation)))
    (readsBack : ∀ passed ∈ archive.trail (operations.map .operation),
      passed.ProfilesReadBack) :
    let after := archive.follow (operations.map .operation)
    Undisturbed after ∧
      ∃ left, left.Sublist
          (appended ++ Event.recorded (operations.map .operation)) ∧
        Retains sizes .directory left after := by
  induction operations generalizing archive appended with
  | nil => exact ⟨undisturbed, appended, by simp [Event.recorded], retains⟩
  | cons operation operations induction =>
      have later : ∀ passed ∈
          (archive.perform operation).trail (operations.map .operation),
          passed.ProfilesReadBack :=
        fun passed member => readsBack passed (List.mem_cons_of_mem _ member)
      have now := later _ (self_mem_trail _ _)
      cases operation with
      | append more =>
          have regrouped :
              appended ++ Event.recorded
                  ((.append more :: operations).map .operation) =
                (appended ++ more) ++
                  Event.recorded (operations.map .operation) := by
            simp [Event.recorded, Event.records]
          rw [regrouped] at traceable ⊢
          exact induction
            (undisturbed.append retains
              (traceable.sublist (List.sublist_append_left _ _)) now)
            (retains.append .none more) traceable later
      | clear =>
          have fewer :
              (Event.recorded (operations.map .operation)).Sublist
                (appended ++ Event.recorded
                  ((.clear :: operations).map .operation)) := by
            simp [Event.recorded, Event.records]
          obtain ⟨after, left, sublist, kept⟩ :=
            induction (undisturbed.clear retains) (retains.clear .none)
              (by simpa using traceable.sublist fewer) later
          exact ⟨after, left, .trans (by simpa using sublist) fewer, kept⟩
      | flush =>
          have same : Event.recorded ((.flush :: operations).map .operation) =
              Event.recorded (operations.map .operation) := by
            simp [Event.recorded, Event.records]
          rw [same] at traceable ⊢
          exact induction (undisturbed.flush now).1 (retains.flush .none)
            traceable later

/-- The next history starts with the whole model and learns what is news to
it among the retained records. -/
theorem Undisturbed.reopen_eq (undisturbed : Undisturbed archive)
    (retains : Retains sizes .directory appended archive)
    (traceable : History.Traceable appended)
    (nothingUnsaved : archive.history.unsaved = 0) :
    let reopened := (archive.reopen sizes).history
    reopened.records = archive.history.records ∧
      reopened.model = History.observeAll archive.history.model
        (archive.history.records.filter
          (History.isNews archive.history.model)) := by
  have sublist : archive.history.records.Sublist appended := by
    rw [retains.holds.records]
    exact List.rtake_sublist _ _
  have whole : archive.history.records.rtake (max sizes.limit 1) =
      archive.history.records := by
    rw [retains.holds.records, retains.holds.limit, List.rtake_rtake]
  have restored : sizes.model.restore archive.history.model.snapshot =
      archive.history.model := by
    have settled := undisturbed.settled.restore_snapshot
    rwa [retains.holds.capacity, retains.holds.saturation] at settled
  have opened := Archive.reopen_eq sizes (traceable.sublist sublist).readBack
    (retains.logged undisturbed.persistent) (undisturbed.saved nothingUnsaved)
  simp only [whole, restored] at opened
  intro reopened
  simp only [reopened, opened, and_self]

/-- Closing a history in good order and opening it again keeps the records
and adds to the model what is news to it among them. -/
theorem restart_eq (sizes : Sizes) (operations : List Operation)
    (traceable : History.Traceable
      (Event.recorded (operations.map .operation)))
    (readsBack : ∀ passed ∈ (start sizes .directory).trail
        (operations.map .operation ++ [.operation .flush]),
      passed.ProfilesReadBack) :
    let archive := (start sizes .directory).follow (operations.map .operation)
    let before := archive.history
    let after := ((archive.perform .flush).reopen sizes).history
    after.records = before.records ∧
      after.model = History.observeAll before.model
        (before.records.filter (History.isNews before.model)) ∧
      ∃ appended, before.model.Remembers appended := by
  intro archive before after
  have closedReadsBack : (archive.perform .flush).ProfilesReadBack := by
    have last := follow_mem_trail (start sizes .directory)
      (operations.map .operation ++ [.operation .flush])
    rw [follow, List.foldl_append] at last
    exact readsBack _ last
  obtain ⟨undisturbed, appended, sublist, retains⟩ :=
    (undisturbed_start sizes).follow (retains_start sizes .directory)
      (by simpa using traceable)
      fun passed member => readsBack passed (mem_trail_append _ member)
  obtain ⟨closed, nothingUnsaved⟩ := undisturbed.flush closedReadsBack
  have same : History.SameMemory before (archive.perform .flush).history :=
    (History.flush_outcome before archive.directory).sameMemory.1
  have opened : after.records = (archive.perform .flush).history.records ∧
      after.model = _ :=
    closed.reopen_eq (retains.flush .none)
      (traceable.sublist (by simpa using sublist)) nothingUnsaved
  rw [same.records, same.model] at opened
  exact ⟨opened.1, opened.2, appended, retains.holds.remembers⟩

/-- Closing a history in good order and opening it again keeps the window of
a pair exactly when no retained record of the pair is newer than all samples
in the window. -/
theorem window_after_restart_iff (sizes : Sizes)
    (operations : List Operation)
    (traceable : History.Traceable
      (Event.recorded (operations.map .operation)))
    (readsBack : ∀ passed ∈ (start sizes .directory).trail
        (operations.map .operation ++ [.operation .flush]),
      passed.ProfilesReadBack) :
    let archive := (start sizes .directory).follow (operations.map .operation)
    let before := archive.history
    let after := ((archive.perform .flush).reopen sizes).history
    ∀ signature store,
      (after.model.profile? signature store).map (·.window) =
          (before.model.profile? signature store).map (·.window) ↔
        ∀ record ∈ before.records,
          record.signature = signature → record.store = store →
          ∃ profile, before.model.profile? signature store = some profile ∧
            ∃ sample ∈ profile.window.samples,
              sample.timestamp.lt record.timestamp = false := by
  intro archive before after signature store
  obtain ⟨_, model, appended, remembers⟩ :=
    restart_eq sizes operations traceable readsBack
  have isModel : after.model = _ := model
  rw [isModel, History.window_observeAll_news_iff remembers]
  apply forall₂_congr
  intro record _
  rw [ExecutionRecord.concerns_iff, and_imp]
  apply forall₂_congr
  rintro rfl rfl
  exact History.isNews_eq_false_iff

/-- Two records of one pair, the newer one appended first. -/
def outOfOrder : List ExecutionRecord :=
  [.specimen 1 10 1.0, .specimen 2 5 2.0]

theorem traceable_outOfOrder : History.Traceable outOfOrder := by
  refine ⟨by decide +kernel, ?_⟩
  simp only [ExecutionRecord.ofText?_text]
  decide +kernel

theorem readsBack_outOfOrder :
    ∀ passed ∈ (start ⟨4, 1, 50⟩ .directory).trail
        [.operation (.append outOfOrder), .operation .flush],
      passed.ProfilesReadBack := by
  let known := (History.observeAll (.empty 1 50) outOfOrder).snapshot
  have decoded : (Reading.document false known.json.chars).toOption.bind
      ProfileDocument.decode = some known := by decide +kernel
  simp only [trail, happen, start_directory, List.forall_mem_cons]
  refine ⟨?_, ?_, ?_, by simp⟩
  · exact profilesReadBack_of_absent rfl
  · apply profilesReadBack_of_absent
    rw [profiles_append_of_few _ (by decide)]
  · refine profilesReadBack_of_decoded ?_ decoded
    rw [model_flush, model_append]
    rfl

/-- The window of the pair is the one that the iff speaks of. -/
theorem window_after_restart_outOfOrder :
    let archive := (start ⟨4, 1, 50⟩ .directory).follow
      [.operation (.append outOfOrder)]
    let after := ((archive.perform .flush).reopen ⟨4, 1, 50⟩).history
    (after.model.profile? ⟨"q_0"⟩ "s").map (·.window) =
        (archive.history.model.profile? ⟨"q_0"⟩ "s").map (·.window) ↔
      ∀ record ∈ archive.history.records,
        record.signature = ⟨"q_0"⟩ → record.store = "s" →
        ∃ profile,
          archive.history.model.profile? ⟨"q_0"⟩ "s" = some profile ∧
            ∃ sample ∈ profile.window.samples,
              sample.timestamp.lt record.timestamp = false :=
  window_after_restart_iff ⟨4, 1, 50⟩ [.append outOfOrder]
    (by simpa [Event.recorded, Event.records] using traceable_outOfOrder)
    readsBack_outOfOrder ⟨"q_0"⟩ "s"

/-- With room for one sample the newer record makes room for the older one,
and after the restart it is back in its place. -/
theorem restart_changes_window :
    let archive := (start ⟨4, 1, 50⟩ .directory).follow
      [.operation (.append outOfOrder)]
    let after := ((archive.perform .flush).reopen ⟨4, 1, 50⟩).history
    History.Traceable outOfOrder ∧
      (∀ passed ∈ (start ⟨4, 1, 50⟩ .directory).trail
          [.operation (.append outOfOrder), .operation .flush],
        passed.ProfilesReadBack) ∧
      (archive.history.model.profile? ⟨"q_0"⟩ "s").map (·.window.samples) =
        some [(ExecutionRecord.specimen 2 5 2.0).sample] ∧
      (after.model.profile? ⟨"q_0"⟩ "s").map (·.window.samples) =
        some [(ExecutionRecord.specimen 1 10 1.0).sample] := by
  intro archive after
  have model : archive.history.model =
      History.observeAll (.empty 1 50) outOfOrder := by
    simp only [archive, follow, List.foldl_cons, List.foldl_nil, happen,
      start_directory, model_append]
    rfl
  have records : archive.history.records = outOfOrder := by
    simp only [archive, follow, List.foldl_cons, List.foldl_nil, happen,
      start_directory, perform]
    rw [History.records_append _ (by simp)]
    rfl
  have changed : after.model = _ :=
    (restart_eq ⟨4, 1, 50⟩ [.append outOfOrder]
      (by simpa [Event.recorded, Event.records] using traceable_outOfOrder)
      readsBack_outOfOrder).2.1
  have same : ((start ⟨4, 1, 50⟩ .directory).follow
      ([Operation.append outOfOrder].map .operation)) = archive := rfl
  rw [same, model, records] at changed
  refine ⟨traceable_outOfOrder, readsBack_outOfOrder, ?_, ?_⟩
  · rw [model]
    decide +kernel
  · rw [changed]
    decide +kernel

end Archive

end Polystore
