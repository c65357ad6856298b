import Polystore.Proofs.History.Quiescence

/-!
# Agreement of memory and log

Memory and log cut back the same batches, each in an order of its own: calls
that overlap may pass each other between logging and retaining.  Where the two
orders are the same, and both started with the same records or have both
dropped all that they started with, memory and log agree, and the next history
answers as the last one did.
-/

namespace Polystore

def LogFile.written (log : LogFile) : List LogRow :=
  log.rows.toOption.getD []

namespace Archive

variable {archive : Archive}

/-- A history that is opened on a log which reads back finds the records that
were written. -/
theorem records_reopen {records : List ExecutionRecord} {sizes : Sizes}
    (log : archive.directory.log = .table (records.map LogRow.ofRecord))
    (readBack : ∀ record ∈ records,
      ExecutionRecord.ofText? record.text = some record)
    (fits : records.length ≤ max sizes.limit 1) :
    (archive.reopen sizes).history.records = records := by
  have opens : archive.directory.log.opened =
      .ok (.table (records.map LogRow.ofRecord)) := by
    rw [log]
    rfl
  have loads := History.load_of_readBack readBack (max sizes.limit 1)
  rw [List.rtake_of_length_le fits] at loads
  have outcome :=
    History.openIn_outcome archive.directory sizes.model sizes.limit
  simp only [reopen]
  generalize History.openIn archive.directory sizes.model sizes.limit =
    opened at outcome ⊢
  cases outcome with
  | refused refused => cases opens.symm.trans refused
  | unreadable found unreadable =>
      cases opens.symm.trans found
      cases loads.symm.trans unreadable
  | loaded found loaded _ =>
      cases opens.symm.trans found
      cases loads.symm.trans loaded
      rfl

theorem log_flush (archive : Archive) :
    (archive.perform .flush).directory.log = archive.directory.log :=
  (History.flush_outcome archive.history archive.directory).sameMemory.2

end Archive

theorem History.query_of_records {history other : History}
    (same : history.records = other.records) (filter : RecordFilter) :
    history.query filter = other.query filter := by
  simp only [query, same]

namespace Shared

variable {directory : DataDirectory} {sizes : Sizes} {moves : List Move}
  {first last start : Shared}

/-- The records from which a history goes on after the last clear, or after it
was opened. -/
def foundRecords (opened : Shared) (moves : List Move) :
    List ExecutionRecord :=
  if moves.any Move.isClear then [] else opened.archive.history.records

/-- The rows from which the log goes on after the last clear, or after it was
opened. -/
def foundRows (opened : Shared) (moves : List Move) : List LogRow :=
  if moves.any Move.isClear then []
  else opened.archive.directory.log.written

theorem Origin.records
    (origin : Origin first (moves.any Move.isClear) start) :
    start.archive.history.records = foundRecords first moves := by
  rw [foundRecords]
  cases cleared : moves.any Move.isClear with
  | true => exact (origin.blank cleared).records
  | false =>
      rw [origin.whole cleared]
      rfl

theorem Origin.log
    (origin : Origin (opened directory sizes) (moves.any Move.isClear) start)
    (sound : start.archive.history.degraded = false) :
    start.archive.directory.log =
      .table (foundRows (opened directory sizes) moves) := by
  rw [foundRows]
  cases cleared : moves.any Move.isClear with
  | true => exact (origin.blank cleared).log sound
  | false =>
      have same := origin.whole cleared
      rw [same] at sound ⊢
      obtain ⟨rows, isTable⟩ := log_opened sound
      rw [isTable]
      rfl

theorem length_foundRecords_le (directory : DataDirectory) (sizes : Sizes)
    (moves : List Move) :
    (foundRecords (opened directory sizes) moves).length ≤
      max sizes.limit 1 := by
  rw [foundRecords]
  split
  · exact Nat.zero_le _
  · exact (History.openIn_outcome (directory.impaired .none) sizes.model
      sizes.limit).fits

theorem records_of_run (ran : (opened directory sizes).Run moves last) :
    last.archive.history.records =
      List.keepLast (max sizes.limit 1)
        (foundRecords (opened directory sizes) moves)
        (Move.retained (Move.sinceClear moves)) := by
  obtain ⟨start, origin, _, _, accounts⟩ := ran.exists_accounts
  rw [accounts.records, origin.records, origin.continues.limit, limit_opened]
  rfl

theorem log_of_run (ran : (opened directory sizes).Run moves last)
    (sound : last.archive.history.degraded = false) :
    last.archive.directory.log =
      .table (List.keepLast (max sizes.limit 1)
        (foundRows (opened directory sizes) moves)
        ((Move.logged (Move.sinceClear moves)).map
          (List.map LogRow.ofRecord))) := by
  obtain ⟨start, origin, _, _, accounts⟩ := ran.exists_accounts
  rw [accounts.log sound _ (origin.log (accounts.sound sound)),
    origin.continues.limit, limit_opened]
  rfl

theorem archive_opened (archive : Archive) (sizes : Sizes) :
    (opened archive.directory sizes).archive = archive.reopen sizes := rfl

theorem readBack_specimens :
    ∀ record ∈ [ExecutionRecord.specimen 1 10 1.0,
        ExecutionRecord.specimen 2 20 2.0],
      ExecutionRecord.ofText? record.text = some record := by
  simp only [List.forall_mem_cons, ExecutionRecord.ofText?_text]
  decide +kernel

/-- While no call is under way, the records in memory are the last of those
found and those retained since, and the rows of the log the last of those
found and those logged since.  Both orders go through the same batches.  When
they are the same order, and nothing is left of a difference at the start,
memory and log agree. -/
theorem agreement_of_quiet
    (ran : (opened directory sizes).Run moves last) (quiet : last.Quiet)
    (sound : last.archive.history.degraded = false) :
    let limit := max sizes.limit 1
    let records := foundRecords (opened directory sizes) moves
    let rows := foundRows (opened directory sizes) moves
    let entered := Move.entered (Move.sinceClear moves)
    let logged := Move.logged (Move.sinceClear moves)
    let retained := Move.retained (Move.sinceClear moves)
    logged.Perm entered ∧ retained.Perm entered ∧
      last.archive.history.records =
        List.keepLast limit records retained ∧
      last.archive.directory.log =
        .table (List.keepLast limit rows
          (logged.map (List.map LogRow.ofRecord))) ∧
      (logged = retained →
        rows = records.map LogRow.ofRecord ∨
          limit ≤ entered.flatten.length →
        last.archive.directory.log =
            .table (last.archive.history.records.map LogRow.ofRecord) ∧
          ((∀ record ∈ last.archive.history.records,
              ExecutionRecord.ofText? record.text = some record) →
            ∀ next : Sizes, next.limit = sizes.limit → ∀ filter,
              ((last.archive.perform .flush).reopen next).history.query
                  filter =
                last.archive.history.query filter)) := by
  intro limit records rows entered logged retained
  obtain ⟨start, _, before, recent, _⟩ := ran.exists_accounts
  have loggedPerm : logged.Perm entered := recent.logged_perm before quiet
  have retainedPerm : retained.Perm entered :=
    recent.retained_perm before quiet
  have inMemory : last.archive.history.records =
      List.keepLast limit records retained := records_of_run ran
  have inLog : last.archive.directory.log =
      .table (List.keepLast limit rows
        (logged.map (List.map LogRow.ofRecord))) := log_of_run ran sound
  refine ⟨loggedPerm, retainedPerm, inMemory, inLog, ?_⟩
  intro sameOrder sameStart
  have agree : last.archive.directory.log =
      .table (last.archive.history.records.map LogRow.ofRecord) := by
    have positive : 0 < limit := by omega
    rw [inLog, inMemory, sameOrder, List.keepLast_map positive]
    exact sameStart.imp_right
      (Nat.le_trans · retainedPerm.flatten.length_eq.ge)
  refine ⟨agree, ?_⟩
  intro readBack next nextLimit filter
  have fits : last.archive.history.records.length ≤ max next.limit 1 := by
    rw [inMemory, nextLimit]
    exact List.length_keepLast_le
      (length_foundRecords_le directory sizes moves) retained
  exact History.query_of_records (Archive.records_reopen
    (last.archive.log_flush.trans agree) readBack fits) filter

/-- The call that begins last logs and retains first, and only the record of
the other is kept. -/
theorem agreement_of_quiet_overtaking :
    let first := ExecutionRecord.specimen 1 10 1.0
    let second := ExecutionRecord.specimen 2 20 2.0
    ∃ moves last, (opened .fresh ⟨1, 1, 50⟩).Run moves last ∧ last.Quiet ∧
      last.archive.history.degraded = false ∧
      Move.entered moves = [[first], [second]] ∧
      Move.logged moves = [[second], [first]] ∧
      last.archive.directory.log = .table [.ofRecord first] ∧
      ((last.archive.perform .flush).reopen ⟨1, 1, 50⟩).history.query .all =
        [first] := by
  intro first second
  obtain ⟨moves, last, ran, quiet, sound, whole, entered, logged, retained,
      records, answer⟩ :
      ∃ moves last, (opened .fresh ⟨1, 1, 50⟩).Run moves last ∧ last.Quiet ∧
        last.archive.history.degraded = false ∧
        moves.any Move.isClear = false ∧
        Move.entered moves = [[first], [second]] ∧
        Move.logged moves = [[second], [first]] ∧
        Move.retained moves = [[second], [first]] ∧
        last.archive.history.records = [first] ∧
        last.archive.history.query .all = [first] :=
    exists_run_of_schedule?
      [.enter [first], .enter [second], .next 1, .next 0, .next 1, .next 0,
        .next 1, .next 0] (by decide +kernel)
  obtain ⟨_, _, _, _, agreement⟩ := agreement_of_quiet ran quiet sound
  rw [Move.sinceClear_of_none whole, records] at agreement
  obtain ⟨log, reopened⟩ := agreement (logged.trans retained.symm)
    (.inr (by simp [entered]))
  have readBack : ∀ record ∈ [first],
      ExecutionRecord.ofText? record.text = some record := by
    intro record member
    exact readBack_specimens record (List.mem_cons.mpr
      (.inl (List.mem_singleton.mp member)))
  exact ⟨moves, last, ran, quiet, sound, entered, logged, log,
    (reopened readBack ⟨1, 1, 50⟩ rfl .all).trans answer⟩

/-- Of two calls that overlap, the one that logs first may retain last; and a
history that is opened with a smaller limit leaves the rows before it in the
log. -/
theorem orders_can_differ :
    let first := ExecutionRecord.specimen 1 10 1.0
    let second := ExecutionRecord.specimen 2 20 2.0
    let rows := [first, second].map LogRow.ofRecord
    let smaller := opened ⟨.table rows, .absent⟩ ⟨1, 1, 50⟩
    (∃ moves last, (opened .fresh ⟨2, 1, 50⟩).Run moves last ∧ last.Quiet ∧
        last.archive.history.degraded = false ∧
        last.archive.history.query .all = [first, second] ∧
        last.archive.directory.log = .table rows ∧
        ((last.archive.perform .flush).reopen ⟨2, 1, 50⟩).history.query
          .all = [second, first]) ∧
      smaller.Quiet ∧ smaller.archive.history.degraded = false ∧
        smaller.archive.history.records = [second] ∧
        smaller.archive.directory.log = .table rows := by
  intro first second rows smaller
  constructor
  · obtain ⟨moves, last, ran, quiet, sound, whole, logged, answer⟩ :
        ∃ moves last, (opened .fresh ⟨2, 1, 50⟩).Run moves last ∧
          last.Quiet ∧ last.archive.history.degraded = false ∧
          moves.any Move.isClear = false ∧
          Move.logged moves = [[first], [second]] ∧
          last.archive.history.query .all = [first, second] :=
      exists_run_of_schedule?
        [.enter [first], .enter [second], .next 0, .next 0, .next 1, .next 1,
          .next 1, .next 0] (by decide +kernel)
    have log := log_of_run ran sound
    rw [foundRows, whole, Move.sinceClear_of_none whole, logged] at log
    have found : ((last.archive.perform .flush).reopen
        ⟨2, 1, 50⟩).history.records = [first, second] :=
      Archive.records_reopen (last.archive.log_flush.trans log)
        readBack_specimens (by decide)
    refine ⟨moves, last, ran, quiet, sound, answer, log, ?_⟩
    rw [History.query, found]
    decide +kernel
  · let left : Archive :=
      ⟨.inMemory (.empty 1 50) 1, .table rows, .absent⟩
    have isSmaller : smaller.archive = _ := (archive_opened left _).trans
      (Archive.reopen_eq ⟨1, 1, 50⟩ readBack_specimens rfl rfl)
    have quiet : smaller.Quiet := List.forall_mem_nil _
    refine ⟨quiet, ?_, ?_, ?_⟩
    · rw [isSmaller]
    · rw [isSmaller]
      decide +kernel
    · rw [isSmaller]

end Shared

end Polystore
