import Polystore.Proofs.History.Retention
import Polystore.Proofs.History.Reopening

/-!
# Recovery from a crash

The profiles are saved rarely and the log with every append, so a crash leaves
an old document of profiles beside a log that was cut back since.  The records
of the log fall into those that the document covers and the pending ones
behind them.  The pending ones are fewer than the log keeps, and they alone
are news to the restored profiles, so the next history learns exactly what the
last one knew.
-/

namespace Polystore

namespace ProfileDocument

/-- The profiles know the covered records and nothing but what was seen. -/
structure Reflects (seen covered : List ExecutionRecord)
    (document : ProfileDocument) : Prop where
  fromSeen : covered.Sublist seen
  sorted : document.Sorted
  covers : document.Covers covered
  stems : document.StemsFrom seen

variable {seen covered pending : List ExecutionRecord}
  {document : ProfileDocument}

theorem reflects_nil (seen : List ExecutionRecord) :
    Reflects seen [] ([] : ProfileDocument) where
  fromSeen := List.nil_sublist seen
  sorted := sorted_nil
  covers := by simp [Covers]
  stems := by
    intro signature store profile found
    simp [profile?] at found

theorem Reflects.sublist (reflects : document.Reflects seen covered)
    {fewer : List ExecutionRecord} (sublist : fewer.Sublist covered) :
    document.Reflects seen fewer where
  fromSeen := sublist.trans reflects.fromSeen
  sorted := reflects.sorted
  covers := reflects.covers.subset sublist.subset
  stems := reflects.stems

/-- The snapshot of a model that was restored and went on observing covers
the further records as well. -/
theorem Reflects.snapshot (reflects : document.Reflects seen covered)
    (ordered : (seen ++ pending).Pairwise ExecutionRecord.Precedes)
    (model : Model) :
    Reflects (seen ++ pending) (covered ++ pending)
      (History.observeAll (model.restore document) pending).snapshot where
  fromSeen := reflects.fromSeen.append (List.Sublist.refl pending)
  sorted :=
    ((Model.settled_restore model document).observeAll pending).sorted
  covers := Model.covers_observeAll
    (Model.covers_restore model reflects.sorted reflects.covers)
    ((ordered.sublist (reflects.fromSeen.append
      (List.Sublist.refl pending))).imp ExecutionRecord.Precedes.inOrder)
  stems := Model.stems_observeAll
    ((Model.stems_restore model reflects.sorted reflects.stems).subset
      (List.subset_append_left seen pending))
    (List.subset_append_right seen pending)

/-- The pending records are the news for every model that the document is
restored to. -/
theorem Reflects.filter_isNews (reflects : document.Reflects seen covered)
    (ordered : (seen ++ pending).Pairwise ExecutionRecord.Precedes)
    (model : Model) {limit : Nat} (fits : pending.length ≤ limit) :
    ((covered ++ pending).rtake limit).filter
        (History.isNews (model.restore document)) = pending := by
  have covers := Model.covers_restore model reflects.sorted reflects.covers
  have stems := Model.stems_restore model reflects.sorted reflects.stems
  have noOld : (covered.rtake (limit - pending.length)).filter
      (History.isNews (model.restore document)) = [] := by
    apply List.filter_eq_nil_iff.mpr
    intro record member
    simp [Model.not_isNews_of_covers covers (List.mem_of_mem_rtake member)]
  have allNew : pending.filter (History.isNews (model.restore document)) =
      pending := by
    apply List.filter_eq_self.mpr
    intro record member
    exact Model.isNews_of_stems stems fun earlier earlierMember =>
      (List.pairwise_append.mp ordered).2.2 earlier earlierMember record member
  rw [List.rtake_append_of_length_le covered fits, List.filter_append,
    noOld, allNew, List.nil_append]

end ProfileDocument

namespace Archive

/-- The log holds what the document covers and behind it the pending records,
which were observed after the document was written. -/
structure Recoverable (sizes : Sizes)
    (seen covered pending : List ExecutionRecord)
    (document : ProfileDocument) (archive : Archive) : Prop where
  roomy : History.saveInterval ≤ sizes.limit
  attached : archive.history.attached = true
  sound : archive.history.degraded = false
  limit : archive.history.limit = sizes.limit
  unsaved : archive.history.unsaved = pending.length
  few : pending.length < History.saveInterval
  records : archive.history.records =
    (covered ++ pending).rtake sizes.limit
  model : archive.history.model =
    History.observeAll (sizes.model.restore document) pending
  log : archive.directory.log =
    .table ((covered ++ pending).map LogRow.ofRecord)
  loads : archive.directory.profiles.load = .ok document
  reflects : document.Reflects seen covered

variable {sizes : Sizes} {seen covered pending : List ExecutionRecord}
  {document : ProfileDocument} {archive : Archive}

namespace Recoverable

theorem persistent
    (recoverable : Recoverable sizes seen covered pending document archive) :
    archive.history.isPersistent = true := by
  simp [History.isPersistent, recoverable.attached, recoverable.sound]

theorem place
    (recoverable : Recoverable sizes seen covered pending document archive) :
    archive.directory.profiles ≠ .directory :=
  ProfileFile.ne_directory_of_load recoverable.loads

theorem logged_sublist
    (recoverable : Recoverable sizes seen covered pending document archive) :
    (covered ++ pending).Sublist (seen ++ pending) :=
  recoverable.reflects.fromSeen.append (List.Sublist.refl pending)

/-- The next history learns the pending records, whatever its sizes are. -/
theorem reopen_eq
    (recoverable : Recoverable sizes seen covered pending document archive)
    (traceable : History.Traceable (seen ++ pending))
    (ordered : (seen ++ pending).Pairwise ExecutionRecord.Precedes)
    {next : Sizes} (roomy : History.saveInterval ≤ next.limit) :
    archive.reopen next =
      ⟨{ records := (covered ++ pending).rtake next.limit
         model := History.observeAll (next.model.restore document) pending
         limit := next.limit
         attached := true
         degraded := false
         unsaved := pending.length }, archive.directory⟩ := by
  have positive : max next.limit 1 = next.limit := by
    have interval : 0 < History.saveInterval := by decide
    omega
  have news := recoverable.reflects.filter_isNews ordered next.model
    (Nat.le_trans (Nat.le_of_lt recoverable.few) roomy)
  have opened := Archive.reopen_eq next
    (traceable.sublist recoverable.logged_sublist).readBack recoverable.log
    recoverable.loads
  simp only [positive, news] at opened
  exact opened

/-- A crash now and a new history of the same sizes lead to the same state. -/
theorem reopen_self
    (recoverable : Recoverable sizes seen covered pending document archive)
    (traceable : History.Traceable (seen ++ pending))
    (ordered : (seen ++ pending).Pairwise ExecutionRecord.Precedes) :
    archive.reopen sizes = archive := by
  rw [recoverable.reopen_eq traceable ordered recoverable.roomy,
    ← recoverable.records, ← recoverable.model, ← recoverable.unsaved]
  have limit := recoverable.limit
  have attached := recoverable.attached
  have sound := recoverable.sound
  rcases archive with ⟨⟨_, _, _, _, _, _⟩, directory⟩
  simp only at limit attached sound
  subst limit attached sound
  rfl

theorem reopen
    (recoverable : Recoverable sizes seen covered pending document archive)
    (traceable : History.Traceable (seen ++ pending))
    (ordered : (seen ++ pending).Pairwise ExecutionRecord.Precedes)
    {next : Sizes} (roomy : History.saveInterval ≤ next.limit) :
    Recoverable next seen covered pending document
      (archive.reopen next) := by
  rw [recoverable.reopen_eq traceable ordered roomy]
  exact {
    roomy
    attached := rfl
    sound := rfl
    limit := rfl
    unsaved := rfl
    few := recoverable.few
    records := rfl
    model := rfl
    log := recoverable.log
    loads := recoverable.loads
    reflects := recoverable.reflects }

theorem restore_snapshot
    (recoverable : Recoverable sizes seen covered pending document archive)
    (more : List ExecutionRecord) :
    sizes.model.restore
        (History.observeAll archive.history.model more).snapshot =
      History.observeAll archive.history.model more := by
  have settled : (History.observeAll archive.history.model more).Settled := by
    rw [recoverable.model]
    exact ((Model.settled_restore _ _).observeAll pending).observeAll more
  have restored := settled.restore_snapshot
  rwa [History.capacity_observeAll, History.saturation_observeAll,
    recoverable.model, History.capacity_observeAll,
    History.saturation_observeAll, Model.capacity_restore,
    Model.saturation_restore, ← recoverable.model] at restored

theorem clear
    (recoverable : Recoverable sizes seen covered pending document archive) :
    Recoverable sizes (seen ++ pending) [] [] []
      (archive.perform .clear) := by
  rw [perform_clear_eq recoverable.persistent recoverable.log
    recoverable.place]
  exact {
    roomy := recoverable.roomy
    attached := recoverable.attached
    sound := recoverable.sound
    limit := recoverable.limit
    unsaved := rfl
    few := by simp [History.saveInterval]
    records := (List.rtake_nil _).symm
    model := by
      simp only [recoverable.model, Model.clear,
        History.capacity_observeAll, History.saturation_observeAll,
        Model.capacity_restore, Model.saturation_restore]
      rfl
    log := rfl
    loads := rfl
    reflects := ProfileDocument.reflects_nil _ }

theorem flush
    (recoverable : Recoverable sizes seen covered pending document archive)
    (ordered : (seen ++ pending).Pairwise ExecutionRecord.Precedes)
    (readsBack : (archive.perform .flush).ProfilesReadBack) :
    ∃ document, Recoverable sizes (seen ++ pending) (covered ++ pending) []
      document (archive.perform .flush) := by
  rcases perform_flush_cases recoverable.persistent recoverable.place with
    ⟨nothing, unchanged⟩ | saved
  · have none : pending = [] := by
      rw [recoverable.unsaved] at nothing
      exact List.length_eq_zero_iff.mp nothing
    subst none
    simp only [unchanged, List.append_nil]
    exact ⟨document, recoverable⟩
  · rw [saved] at readsBack ⊢
    refine ⟨archive.history.model.snapshot, ?_⟩
    exact {
      roomy := recoverable.roomy
      attached := recoverable.attached
      sound := recoverable.sound
      limit := recoverable.limit
      unsaved := rfl
      few := by simp [History.saveInterval]
      records := by simpa using recoverable.records
      model := (recoverable.restore_snapshot []).symm
      log := by simpa using recoverable.log
      loads := readsBack rfl
      reflects := by
        rw [recoverable.model]
        exact recoverable.reflects.snapshot ordered _ }

/-- The log takes every batch, and drops what the document covers before what
is pending. -/
theorem append_ok
    (recoverable : Recoverable sizes seen covered pending document archive)
    {more : List ExecutionRecord}
    (traceable : History.Traceable (seen ++ (pending ++ more))) :
    archive.directory.log.append more archive.history.limit =
      .ok (.table (((covered ++ (pending ++ more)).rtake sizes.limit).map
        LogRow.ofRecord)) := by
  have sublist : ((covered ++ pending) ++ more).Sublist
      (seen ++ (pending ++ more)) := by
    rw [List.append_assoc]
    exact recoverable.reflects.fromSeen.append (List.Sublist.refl _)
  rw [recoverable.log, recoverable.limit,
    (traceable.sublist sublist).append, List.append_assoc]

theorem records_learned
    (recoverable : Recoverable sizes seen covered pending document archive)
    (more : List ExecutionRecord) :
    ((archive.history.learn more).retain more).records =
      (covered ++ (pending ++ more)).rtake sizes.limit := by
  have retained : ((archive.history.learn more).retain more).records =
      (archive.history.records ++ more).rtake archive.history.limit := rfl
  rw [retained, recoverable.limit, recoverable.records,
    List.rtake_rtake_append, List.append_assoc]

theorem model_learned
    (recoverable : Recoverable sizes seen covered pending document archive)
    (more : List ExecutionRecord) :
    History.observeAll archive.history.model more =
      History.observeAll (sizes.model.restore document) (pending ++ more) := by
  rw [recoverable.model, ← History.observeAll_append]

/-- An append keeps the pending records in the log, or saves the profiles and
leaves nothing pending. -/
theorem append
    (recoverable : Recoverable sizes seen covered pending document archive)
    {more : List ExecutionRecord}
    (traceable : History.Traceable (seen ++ (pending ++ more)))
    (ordered : (seen ++ (pending ++ more)).Pairwise ExecutionRecord.Precedes)
    (readsBack : (archive.perform (.append more)).ProfilesReadBack) :
    ∃ seen' covered' pending' document',
      seen' ++ pending' = seen ++ (pending ++ more) ∧
      Recoverable sizes seen' covered' pending' document'
        (archive.perform (.append more)) := by
  by_cases none : more = []
  · subst none
    refine ⟨seen, covered, pending, document, by simp, ?_⟩
    exact recoverable
  have records := recoverable.records_learned more
  have model := recoverable.model_learned more
  rcases perform_append_cases none recoverable.persistent recoverable.place
    (recoverable.append_ok traceable) with ⟨few, logged⟩ | saved
  · have counted : archive.history.unsaved + more.length =
        (pending ++ more).length := by
      rw [recoverable.unsaved, List.length_append]
    have fits : (pending ++ more).length ≤ sizes.limit := by
      rw [← counted]
      exact Nat.le_trans (Nat.le_of_lt few) recoverable.roomy
    have split := List.rtake_append_of_length_le covered fits
    rw [logged]
    refine ⟨seen,
      covered.rtake (sizes.limit - (pending ++ more).length),
      pending ++ more, document, rfl, ?_⟩
    exact {
      roomy := recoverable.roomy
      attached := recoverable.attached
      sound := recoverable.sound
      limit := recoverable.limit
      unsaved := counted
      few := counted ▸ few
      records := by rw [← split, List.rtake_rtake, ← records]
      model
      log := by rw [← split]
      loads := recoverable.loads
      reflects := recoverable.reflects.sublist
        (List.rtake_sublist _ covered) }
  · rw [saved] at readsBack ⊢
    refine ⟨seen ++ (pending ++ more),
      (covered ++ (pending ++ more)).rtake sizes.limit, [],
      (History.observeAll archive.history.model more).snapshot, by simp, ?_⟩
    exact {
      roomy := recoverable.roomy
      attached := recoverable.attached
      sound := recoverable.sound
      limit := recoverable.limit
      unsaved := rfl
      few := by simp [History.saveInterval]
      records := by rw [List.append_nil, List.rtake_rtake, ← records]
      model := (recoverable.restore_snapshot more).symm
      log := by rw [List.append_nil]
      loads := readsBack rfl
      reflects := by
        rw [model]
        exact (recoverable.reflects.snapshot ordered _).sublist
          (List.rtake_sublist _ _) }

end Recoverable

/-- The archive can be recovered after the given records were appended. -/
def Survives (sizes : Sizes) (recorded : List ExecutionRecord)
    (archive : Archive) : Prop :=
  ∃ seen covered pending document, seen ++ pending = recorded ∧
    Recoverable sizes seen covered pending document archive

theorem survives_start {sizes : Sizes}
    (roomy : History.saveInterval ≤ sizes.limit) :
    Survives sizes [] (start sizes .directory) := by
  refine ⟨[], [], [], [], rfl, ?_⟩
  have positive : max sizes.limit 1 = sizes.limit := by
    have interval : 0 < History.saveInterval := by decide
    omega
  rw [start_directory, positive]
  exact {
    roomy
    attached := rfl
    sound := rfl
    limit := rfl
    unsaved := rfl
    few := by simp [History.saveInterval]
    records := (List.rtake_nil _).symm
    model := rfl
    log := rfl
    loads := rfl
    reflects := ProfileDocument.reflects_nil [] }

theorem Survives.happen {recorded : List ExecutionRecord}
    (survives : Survives sizes recorded archive) {event : Event}
    (roomy : History.saveInterval ≤ (event.sizesAfter sizes).limit)
    (traceable : History.Traceable (recorded ++ event.records))
    (ordered :
      (recorded ++ event.records).Pairwise ExecutionRecord.Precedes)
    (readsBack : (archive.happen event).ProfilesReadBack) :
    Survives (event.sizesAfter sizes) (recorded ++ event.records)
      (archive.happen event) := by
  obtain ⟨seen, covered, pending, document, rfl, recoverable⟩ := survives
  rw [List.append_assoc] at traceable ordered ⊢
  cases event with
  | reopening next =>
      simp only [Event.records, List.append_nil] at traceable ordered ⊢
      exact ⟨seen, covered, pending, document, rfl,
        recoverable.reopen traceable ordered roomy⟩
  | operation operation =>
      cases operation with
      | append more =>
          obtain ⟨seen', covered', pending', document', same, after⟩ :=
            recoverable.append traceable ordered readsBack
          exact ⟨seen', covered', pending', document', same, after⟩
      | clear =>
          simp only [Event.records, List.append_nil] at ordered ⊢
          exact ⟨seen ++ pending, [], [], [], by simp, recoverable.clear⟩
      | flush =>
          simp only [Event.records, List.append_nil] at ordered ⊢
          obtain ⟨document', after⟩ := recoverable.flush ordered readsBack
          exact ⟨seen ++ pending, covered ++ pending, [], document', by simp,
            after⟩

theorem Survives.follow {recorded : List ExecutionRecord}
    (survives : Survives sizes recorded archive) {events : List Event}
    (roomy : ∀ next, .reopening next ∈ events →
      History.saveInterval ≤ next.limit)
    (traceable : History.Traceable (recorded ++ Event.recorded events))
    (ordered :
      (recorded ++ Event.recorded events).Pairwise ExecutionRecord.Precedes)
    (readsBack : ∀ passed ∈ archive.trail events, passed.ProfilesReadBack) :
    Survives (Event.lastSizes sizes events)
      (recorded ++ Event.recorded events) (archive.follow events) := by
  induction events generalizing archive sizes recorded with
  | nil =>
      simpa [Event.recorded, Event.lastSizes, Archive.follow] using survives
  | cons event events induction =>
      have regrouped : recorded ++ Event.recorded (event :: events) =
          (recorded ++ event.records) ++ Event.recorded events := by
        simp [Event.recorded]
      rw [regrouped] at traceable ordered ⊢
      have stillRoomy :
          History.saveInterval ≤ (event.sizesAfter sizes).limit := by
        cases event with
        | reopening next => exact roomy next List.mem_cons_self
        | operation _ =>
            obtain ⟨_, _, _, _, _, recoverable⟩ := survives
            exact recoverable.roomy
      have next := survives.happen stillRoomy
        (traceable.sublist (List.sublist_append_left _ _))
        (ordered.sublist (List.sublist_append_left _ _))
        (readsBack _ (List.mem_cons_of_mem _ (self_mem_trail _ _)))
      exact induction next
        (fun next member => roomy next (List.mem_cons_of_mem _ member))
        traceable ordered
        fun passed member => readsBack passed (List.mem_cons_of_mem _ member)

/-- When the process stops after any completed operation, a history of the
same sizes that is opened on the directory is in the state of the one that
was lost: the same records, and for every signature and store the same
profile.  The directory may have been reopened before, after crashes or in
good order, and with other sizes. -/
theorem reopen_after_crash (sizes : Sizes) (events : List Event)
    (roomy : History.saveInterval ≤ sizes.limit)
    (roomyAgain : ∀ next, .reopening next ∈ events →
      History.saveInterval ≤ next.limit)
    (traceable : History.Traceable (Event.recorded events))
    (ordered : (Event.recorded events).Pairwise ExecutionRecord.Precedes)
    (readsBack : ∀ passed ∈ (start sizes .directory).trail events,
      passed.ProfilesReadBack) :
    let archive := (start sizes .directory).follow events
    archive.reopen (Event.lastSizes sizes events) = archive := by
  intro archive
  obtain ⟨seen, covered, pending, document, same, recoverable⟩ :=
    (survives_start roomy).follow roomyAgain (by simpa using traceable)
      (by simpa using ordered) readsBack
  rw [List.nil_append] at same
  rw [← same] at traceable ordered
  exact recoverable.reopen_self traceable ordered

theorem reopen_after_crash_specimen :
    let first := ExecutionRecord.specimen 1 10 1.0
    let second := ExecutionRecord.specimen 2 20 2.0
    let archive := (start ⟨64, 2, 50⟩ .directory).follow
      [.operation (.append [first]), .operation .flush,
        .operation (.append [second])]
    archive.reopen ⟨64, 2, 50⟩ = archive := by
  intro first second
  refine reopen_after_crash ⟨64, 2, 50⟩ _ (by decide) (by simp) ?_ ?_ ?_
  · refine ⟨by decide +kernel, ?_⟩
    simp only [ExecutionRecord.ofText?_text]
    decide +kernel
  · decide +kernel
  · let known := (History.observeAll (.empty 2 50) [first]).snapshot
    have decoded : (Reading.document false known.json.chars).toOption.bind
        ProfileDocument.decode = some known := by decide +kernel
    simp only [trail, start_directory, List.forall_mem_cons]
    refine ⟨?_, ?_, ?_, ?_, by simp⟩
    · intro isText
      cases isText
    · intro isText
      cases isText
    · exact fun _ => ProfileFile.load_text decoded
    · refine profilesReadBack_of_changed
        (rfl : _ = ProfileFile.text known.json.text) (by decide) ?_
      decide +kernel

end Archive

end Polystore
