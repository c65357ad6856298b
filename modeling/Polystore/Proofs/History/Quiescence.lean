import Polystore.Proofs.History.Interleaving

/-!
# Quiet moments

While no call is under way, a shared history holds the batches whose appending
began after the last clear: in memory in the order of retaining, in the log in
the order of logging.  Nothing makes the two orders the same when calls
overlap.
-/

namespace Polystore

namespace DataDirectory

/-- A history that is opened on the directory starts with nothing. -/
structure Blank (directory : DataDirectory) : Prop where
  log : directory.log.opened = .ok (.table [])
  profiles : directory.profiles = .absent

end DataDirectory

namespace Archive

variable {archive : Archive}

/-- Nothing is in memory, and nothing is in the log as long as it is
written. -/
structure Blank (archive : Archive) : Prop where
  records : archive.history.records = []
  profiles : archive.history.model.profiles = []
  log : archive.history.degraded = false → archive.directory.log = .table []

theorem Anchored.perform (anchored : archive.Anchored)
    (operation : Operation) : (archive.perform operation).Anchored :=
  anchored.performDuring .none operation

theorem blank_clear (anchored : archive.Anchored) :
    (archive.perform .clear).Blank := by
  have outcome :=
    History.clear_outcome archive.history archive.directory
  constructor
  · exact outcome.sameMemory.records
  · exact congrArg Model.profiles outcome.sameMemory.model
  · intro sound
    have persistent := (anchored.perform .clear).isPersistent sound
    obtain ⟨rows, _, isEmpty⟩ :=
      LogFile.clear_eq_ok (outcome.log_of_persistent persistent)
    exact isEmpty

theorem blank_openDuring {directory : DataDirectory}
    (blank : directory.Blank) (sizes : Sizes) :
    (openDuring .none directory sizes.model sizes.limit).Blank := by
  have opens : (directory.impaired .none).log.opened = .ok (.table []) :=
    blank.log
  have profiles : (directory.impaired .none).profiles = .absent :=
    blank.profiles
  simp only [openDuring, History.openIn_of_empty_log opens, profiles]
  exact ⟨rfl, rfl, fun _ => rfl⟩

end Archive

namespace Move

variable {move : Move} {moves : List Move}

theorem sinceClear_of_none (none : moves.any isClear = false) :
    sinceClear moves = moves := by
  cases moves with
  | nil => rfl
  | cons move moves =>
      rw [List.any_cons, Bool.or_eq_false_iff] at none
      simp [sinceClear, none.1, none.2]

theorem sinceClear_cons_of_later (later : moves.any isClear = true) :
    sinceClear (move :: moves) = sinceClear moves := by
  simp [sinceClear, later]

theorem sinceClear_cons_of_last (last : moves.any isClear = false)
    (now : move.isClear = true) : sinceClear (move :: moves) = moves := by
  simp [sinceClear, last, now]

theorem any_sinceClear (moves : List Move) :
    (sinceClear moves).any isClear = false := by
  induction moves with
  | nil => rfl
  | cons move moves induction =>
      cases later : moves.any isClear with
      | true => rwa [sinceClear_cons_of_later later]
      | false =>
          cases now : move.isClear with
          | true => rwa [sinceClear_cons_of_last later now]
          | false =>
              have none : (move :: moves).any isClear = false := by
                rw [List.any_cons, now, later, Bool.or_self]
              rwa [sinceClear_of_none none]

end Move

namespace Shared

variable {first next last : Shared} {move : Move} {moves : List Move}

/-- What is open with the same sizes, and has its directory when the other
has. -/
structure Continues (first last : Shared) : Prop where
  limit : last.archive.history.limit = first.archive.history.limit
  capacity :
    last.archive.history.model.capacity =
      first.archive.history.model.capacity
  anchored : first.archive.Anchored → last.archive.Anchored

theorem Continues.refl (shared : Shared) : Continues shared shared :=
  ⟨rfl, rfl, id⟩

theorem Continues.trans (former : Continues first next)
    (latter : Continues next last) : Continues first last where
  limit := latter.limit.trans former.limit
  capacity := latter.capacity.trans former.capacity
  anchored := latter.anchored ∘ former.anchored

theorem Step.continues (step : first.Step move last) :
    Continues first last := by
  cases step with
  | enter => exact ⟨rfl, rfl, id⟩
  | @take archive before task rest behind =>
      constructor
      · exact archive.limit_work task
      · simp only [archive.model_work task, History.capacity_observeAll]
      · exact fun anchored => Archive.anchored_work anchored task
  | @clear archive calls =>
      have same :=
        (History.clear_outcome archive.history archive.directory).sameMemory
      constructor
      · exact same.limit
      · exact (congrArg Model.capacity same.model).trans rfl
      · exact fun anchored => anchored.perform .clear

/-- Where the moves since the last clear start. -/
structure Origin (first : Shared) (cleared : Bool) (start : Shared) :
    Prop where
  continues : Continues first start
  whole : cleared = false → start = first
  quiet : cleared = true → start.Quiet
  blank : cleared = true → start.archive.Blank

theorem Origin.self (shared : Shared) : Origin shared false shared :=
  ⟨.refl shared, fun _ => rfl, nofun, nofun⟩

theorem Origin.quiet_of_quiet {start : Shared} {cleared : Bool}
    (origin : Origin first cleared start) (quiet : first.Quiet) :
    start.Quiet := by
  cases cleared with
  | true => exact origin.quiet rfl
  | false => exact origin.whole rfl ▸ quiet

theorem Step.origin (step : first.Step move last) (clears : move.isClear = true)
    (anchored : first.archive.Anchored) : Origin first true last := by
  have continues := step.continues
  cases step with
  | enter => cases clears
  | take => cases clears
  | clear quiet =>
      exact ⟨continues, nofun, fun _ => quiet,
        fun _ => Archive.blank_clear anchored⟩

theorem limit_opened (directory : DataDirectory) (sizes : Sizes) :
    (opened directory sizes).archive.history.limit = max sizes.limit 1 :=
  (History.openIn_outcome (directory.impaired .none) sizes.model
    sizes.limit).limit

theorem capacity_opened (directory : DataDirectory) (sizes : Sizes) :
    (opened directory sizes).archive.history.model.capacity =
      sizes.capacity :=
  (History.openIn_outcome (directory.impaired .none) sizes.model
    sizes.limit).capacity

theorem log_opened {directory : DataDirectory} {sizes : Sizes}
    (sound : (opened directory sizes).archive.history.degraded = false) :
    ∃ rows, (opened directory sizes).archive.directory.log = .table rows :=
  ((History.openIn_outcome (directory.impaired .none) sizes.model
    sizes.limit).of_sound sound).2

theorem Run.exists_origin (ran : first.Run moves last)
    (anchored : first.archive.Anchored) :
    ∃ start, Origin first (moves.any Move.isClear) start ∧
      start.Run (Move.sinceClear moves) last := by
  induction ran with
  | nil shared => exact ⟨shared, .self shared, .nil shared⟩
  | @cons first next last move moves step rest induction =>
      rw [List.any_cons]
      cases later : moves.any Move.isClear with
      | true =>
          obtain ⟨start, origin, ran⟩ :=
            induction (step.continues.anchored anchored)
          rw [later] at origin
          rw [Move.sinceClear_cons_of_later later, Bool.or_true]
          exact ⟨start, ⟨step.continues.trans origin.continues, nofun,
            origin.quiet, origin.blank⟩, ran⟩
      | false =>
          cases now : move.isClear with
          | true =>
              rw [Move.sinceClear_cons_of_last later now]
              exact ⟨next, step.origin now anchored, rest⟩
          | false =>
              have none : (move :: moves).any Move.isClear = false := by
                rw [List.any_cons, now, later, Bool.or_self]
              rw [Move.sinceClear_of_none none]
              exact ⟨first, .self first, .cons step rest⟩

/-- What a history since the last clear is told by, which is the tasks done
since then. -/
theorem Run.exists_accounts {directory : DataDirectory} {sizes : Sizes}
    (ran : (opened directory sizes).Run moves last) :
    ∃ start, Origin (opened directory sizes) (moves.any Move.isClear) start ∧
      start.Quiet ∧ start.Run (Move.sinceClear moves) last ∧
      start.archive.Accounts (Move.done (Move.sinceClear moves))
        last.archive := by
  have anchored : (opened directory sizes).archive.Anchored :=
    Archive.anchored_openDuring .none directory sizes.model sizes.limit
  obtain ⟨start, origin, recent⟩ := ran.exists_origin anchored
  have accounts := recent.accounts (Move.any_sinceClear moves)
    (origin.continues.anchored anchored).accounts_nil
  exact ⟨start, origin, origin.quiet_of_quiet nofun, recent, accounts⟩

end Shared

/-- The samples in the window of a signature and a store. -/
def Model.windowSamples (model : Model) (signature : Signature)
    (store : String) : List Sample :=
  ((model.profile? signature store).map (·.window.samples)).getD []

theorem Model.Remembers.windowSamples {model : Model}
    {records : List ExecutionRecord} (remembers : model.Remembers records)
    (signature : Signature) (store : String) :
    model.windowSamples signature store =
      (History.samplesOf signature store records).rtake
        (max model.capacity 1) := by
  have known := remembers signature store
  rw [Model.windowSamples]
  cases found : model.profile? signature store with
  | none =>
      rw [found] at known
      have none : History.samplesOf signature store records = [] := by
        by_contra some
        rw [Window.ofSamples?_of_ne_nil _ some] at known
        cases known
      rw [none, List.rtake_nil]
      rfl
  | some profile =>
      rw [found] at known
      exact Window.samples_of_ofSamples?_eq_some known.symm

theorem History.samplesOf_perm {records others : List ExecutionRecord}
    (perm : records.Perm others) (signature : Signature) (store : String) :
    (History.samplesOf signature store records).Perm
      (History.samplesOf signature store others) :=
  (perm.filter _).map _

namespace Shared

variable {directory : DataDirectory} {sizes : Sizes} {moves : List Move}
  {last : Shared}

/-- While no call is under way and nothing had to be dropped since all was
cleared, memory, log and windows hold what was appended since then, all of it
and nothing else. -/
theorem contents_of_quiet
    (ran : (opened directory sizes).Run moves last) (quiet : last.Quiet)
    (sound : last.archive.history.degraded = false)
    (blank : directory.Blank ∨ moves.any Move.isClear = true)
    (room : (Move.entered (Move.sinceClear moves)).flatten.length ≤
      max sizes.limit 1) :
    let appended := (Move.entered (Move.sinceClear moves)).flatten
    last.archive.history.records.Perm appended ∧
      (∃ rows, last.archive.directory.log = .table rows ∧
        rows.Perm (appended.map LogRow.ofRecord)) ∧
      ∀ signature store,
        (History.samplesOf signature store appended).length ≤
            max sizes.capacity 1 →
          (last.archive.history.model.windowSamples signature store).Perm
            (History.samplesOf signature store appended) := by
  intro appended
  obtain ⟨start, origin, before, recent, accounts⟩ := ran.exists_accounts
  have startBlank : start.archive.Blank := by
    rcases blank with isBlank | cleared
    · cases cleared : moves.any Move.isClear with
      | true => exact origin.blank cleared
      | false =>
          rw [origin.whole cleared]
          exact Archive.blank_openDuring isBlank sizes
    · exact origin.blank cleared
  have limit : start.archive.history.limit = max sizes.limit 1 :=
    origin.continues.limit.trans (limit_opened directory sizes)
  have capacity : start.archive.history.model.capacity = sizes.capacity :=
    origin.continues.capacity.trans (capacity_opened directory sizes)
  have retained := (recent.retained_perm before quiet).flatten
  have logged := (recent.logged_perm before quiet).flatten
  have learned := recent.learned_perm before quiet
  refine ⟨?_, ?_, ?_⟩
  · have records : last.archive.history.records = List.keepLast _ _
        (Move.retained (Move.sinceClear moves)) := accounts.records
    rw [startBlank.records, limit, List.keepLast_nil_of_length_le
      (retained.length_eq.trans_le room)] at records
    exact records ▸ retained
  · have log := accounts.log sound []
      (startBlank.log (accounts.sound sound))
    refine ⟨_, log, ?_⟩
    rw [limit, List.keepLast_nil_of_length_le, ← List.map_flatten]
    · exact logged.map LogRow.ofRecord
    · rw [← List.map_flatten, List.length_map]
      exact logged.length_eq.trans_le room
  · intro signature store few
    have remembers := (Model.remembers_nil startBlank.profiles).observeAll
      (Move.learned (Move.sinceClear moves))
    have samples := History.samplesOf_perm learned signature store
    have window := remembers.windowSamples signature store
    rw [History.capacity_observeAll, capacity, List.nil_append,
      List.rtake_of_length_le (samples.length_eq.trans_le few)] at window
    rw [accounts.model]
    exact window ▸ samples

/-- One call is cleared away, and of the two after it the one that logs first
retains last. -/
theorem contents_of_quiet_crossing :
    let second := ExecutionRecord.specimen 2 20 2.0
    let third := ExecutionRecord.specimen 3 30 3.0
    ∃ moves last,
      (opened .fresh ⟨2, 2, 50⟩).Run moves last ∧ last.Quiet ∧
        last.archive.history.degraded = false ∧
        moves.any Move.isClear = true ∧
        Move.entered (Move.sinceClear moves) = [[second], [third]] ∧
        Move.logged (Move.sinceClear moves) = [[second], [third]] ∧
        Move.retained (Move.sinceClear moves) = [[third], [second]] ∧
        last.archive.history.records.Perm [second, third] ∧
        (last.archive.history.model.windowSamples ⟨"q_0"⟩ "s").Perm
          [second.sample, third.sample] := by
  intro second third
  let first := ExecutionRecord.specimen 1 10 1.0
  obtain ⟨moves, last, ran, quiet, sound, cleared, entered, logged,
      retained⟩ :
      ∃ moves last, (opened .fresh ⟨2, 2, 50⟩).Run moves last ∧
        last.Quiet ∧ last.archive.history.degraded = false ∧
        moves.any Move.isClear = true ∧
        Move.entered (Move.sinceClear moves) = [[second], [third]] ∧
        Move.logged (Move.sinceClear moves) = [[second], [third]] ∧
        Move.retained (Move.sinceClear moves) = [[third], [second]] :=
    exists_run_of_schedule?
      [.enter [first], .next 0, .next 0, .next 0, .clear, .enter [second],
        .enter [third], .next 2, .next 1, .next 1, .next 2, .next 2, .next 1]
      (by decide +kernel)
  have contents := contents_of_quiet ran quiet sound (.inr cleared)
    (by simp [entered])
  simp only [entered, List.flatten_cons, List.flatten_nil, List.append_nil,
    List.singleton_append] at contents
  obtain ⟨records, _, windows⟩ := contents
  exact ⟨moves, last, ran, quiet, sound, cleared, entered, logged, retained,
    records, windows ⟨"q_0"⟩ "s" (by decide +kernel)⟩

end Shared

end Polystore
