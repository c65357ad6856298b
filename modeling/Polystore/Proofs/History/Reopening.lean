import Polystore.Proofs.History.Outcomes
import Polystore.Proofs.Learning.Coverage

/-!
# Reopening

A data directory outlives the history that was opened on it.  A process that
stops leaves the directory as it is after the last completed operation, and a
history that is closed in good order flushes before.  This file says what the
next history finds, provided that what was written reads back.
-/

namespace Polystore

/-- What happens to a data directory. -/
inductive Event where
  | operation (operation : Operation)
  /-- The process stops, and a history of the given sizes is opened. -/
  | reopening (sizes : Sizes)

namespace Event

def records : Event → List ExecutionRecord
  | .operation (.append records) => records
  | _ => []

/-- All records that events append, cleared ones included. -/
def recorded (events : List Event) : List ExecutionRecord :=
  events.flatMap records

/-- The sizes of the history that is open after an event. -/
def sizesAfter (sizes : Sizes) : Event → Sizes
  | .reopening sizes => sizes
  | .operation _ => sizes

/-- The sizes of the history that is open in the end. -/
def lastSizes (sizes : Sizes) (events : List Event) : Sizes :=
  events.foldl sizesAfter sizes

end Event

namespace Archive

/-- The history that is opened on the directory that another one leaves. -/
def reopen (archive : Archive) (sizes : Sizes) : Archive :=
  let (history, directory) :=
    History.openIn archive.directory sizes.model sizes.limit
  ⟨history, directory⟩

def happen (archive : Archive) : Event → Archive
  | .operation operation => archive.perform operation
  | .reopening sizes => archive.reopen sizes

def follow (archive : Archive) (events : List Event) : Archive :=
  events.foldl happen archive

def trail (archive : Archive) : List Event → List Archive
  | [] => [archive]
  | event :: rest => archive :: trail (archive.happen event) rest

/-- A document that is there as the model's snapshot reads back as such. -/
def ProfilesReadBack (archive : Archive) : Prop :=
  archive.directory.profiles =
      .text archive.history.model.snapshot.json.text →
    archive.directory.profiles.load = .ok archive.history.model.snapshot

theorem self_mem_trail (archive : Archive) (events : List Event) :
    archive ∈ archive.trail events := by
  cases events <;> simp [trail]

theorem mem_trail_append {archive passed : Archive} {events : List Event}
    (more : List Event) (member : passed ∈ archive.trail events) :
    passed ∈ archive.trail (events ++ more) := by
  induction events generalizing archive with
  | nil =>
      rw [List.mem_singleton.mp member]
      exact self_mem_trail _ _
  | cons event events induction =>
      rcases List.mem_cons.mp member with isFirst | later
      · rw [isFirst]
        exact self_mem_trail _ _
      · exact List.mem_cons_of_mem _ (induction later)

theorem follow_mem_trail (archive : Archive) (events : List Event) :
    archive.follow events ∈ archive.trail events := by
  induction events generalizing archive with
  | nil => exact List.mem_singleton.mpr rfl
  | cons event events induction =>
      exact List.mem_cons_of_mem _ (induction (archive.happen event))

end Archive

namespace ProfileFile

variable {file : ProfileFile}

theorem ne_directory_of_load {document : ProfileDocument}
    (loads : file.load = .ok document) : file ≠ .directory := by
  intro isDirectory
  simp [isDirectory, load] at loads

theorem save_of_ne_directory (place : file ≠ .directory)
    (document : ProfileDocument) :
    file.save document = .ok (.text document.json.text) := by
  cases file with
  | absent => rfl
  | text content => rfl
  | directory => exact absurd rfl place

theorem remove_of_ne_directory (place : file ≠ .directory) :
    file.remove = .ok .absent := by
  cases file with
  | absent => rfl
  | text content => rfl
  | directory => exact absurd rfl place

end ProfileFile

theorem Archive.perform_append_of_ne_nil (archive : Archive)
    {records : List ExecutionRecord} (nonempty : records ≠ []) :
    archive.perform (.append records) =
      let written := (archive.history.learn records).writeLog
        archive.directory records
      ⟨written.1.retain records, written.2⟩ := by
  simp only [perform, History.append_of_ne_nil archive.history _ nonempty]

theorem Archive.model_append (archive : Archive)
    (records : List ExecutionRecord) :
    (archive.perform (.append records)).history.model =
      History.observeAll archive.history.model records :=
  History.model_append archive.history archive.directory records

theorem Archive.model_flush (archive : Archive) :
    (archive.perform .flush).history.model = archive.history.model :=
  History.model_flush archive.history archive.directory

theorem Archive.profiles_append_of_few (archive : Archive)
    {records : List ExecutionRecord}
    (few : archive.history.unsaved + records.length < History.saveInterval) :
    (archive.perform (.append records)).directory.profiles =
      archive.directory.profiles :=
  History.profiles_append_of_few archive.directory few

theorem Archive.perform_clear_eq {archive : Archive} {rows : List LogRow}
    (persistent : archive.history.isPersistent = true)
    (log : archive.directory.log = .table rows)
    (place : archive.directory.profiles ≠ .directory) :
    archive.perform .clear =
      ⟨{ archive.history with
          records := [], model := archive.history.model.clear,
          unsaved := 0 }, ⟨.table [], .absent⟩⟩ := by
  have emptied : archive.directory.log.clear = .ok (.table []) := by
    rw [log]
    rfl
  have removed := ProfileFile.remove_of_ne_directory place
  have still : ({ archive.history with
      records := [], model := archive.history.model.clear } :
        History).isPersistent = true := persistent
  simp only [perform, History.clear, still, if_true,
    History.clearDirectory, emptied, removed]

theorem Archive.perform_flush_cases {archive : Archive}
    (persistent : archive.history.isPersistent = true)
    (place : archive.directory.profiles ≠ .directory) :
    archive.history.unsaved = 0 ∧ archive.perform .flush = archive ∨
      archive.perform .flush =
        ⟨{ archive.history with unsaved := 0 },
          { archive.directory with
            profiles := .text archive.history.model.snapshot.json.text }⟩ := by
  have outcome := History.flush_outcome archive.history archive.directory
  have flushed : archive.perform .flush =
      ⟨(archive.history.flush archive.directory).1,
        (archive.history.flush archive.directory).2.1⟩ := rfl
  rw [flushed]
  generalize archive.history.flush archive.directory = result at outcome ⊢
  obtain ⟨history, directory, report⟩ := result
  simp only at outcome ⊢
  cases outcome with
  | idle nothing => exact .inl ⟨nothing persistent, rfl⟩
  | saved _ success =>
      rw [ProfileFile.save_of_ne_directory place] at success
      cases success
      exact .inr rfl
  | unsaved _ failure =>
      rw [ProfileFile.save_of_ne_directory place] at failure
      cases failure

theorem Archive.perform_append_cases {archive : Archive}
    {records : List ExecutionRecord} {log : LogFile}
    (nonempty : records ≠ [])
    (persistent : archive.history.isPersistent = true)
    (place : archive.directory.profiles ≠ .directory)
    (taken : archive.directory.log.append records archive.history.limit =
      .ok log) :
    let learned := (archive.history.learn records).retain records
    archive.history.unsaved + records.length < History.saveInterval ∧
        archive.perform (.append records) =
          ⟨{ learned with
              unsaved := archive.history.unsaved + records.length },
            { archive.directory with log }⟩ ∨
      archive.perform (.append records) =
        ⟨{ learned with unsaved := 0 },
          ⟨log, .text learned.model.snapshot.json.text⟩⟩ := by
  intro learned
  have outcome := History.writeLog_outcome (archive.history.learn records)
    archive.directory records
  have stillPersistent : (archive.history.learn records).isPersistent = true :=
    persistent
  rw [archive.perform_append_of_ne_nil nonempty]
  generalize (archive.history.learn records).writeLog archive.directory
    records = written at outcome ⊢
  cases outcome with
  | detached detached =>
      exact absurd (detached.symm.trans stillPersistent) (by simp)
  | refused _ failure => cases failure.symm.trans taken
  | logged _ success few =>
      cases success.symm.trans taken
      exact .inl ⟨few, rfl⟩
  | saved _ success _ save =>
      cases success.symm.trans taken
      rw [ProfileFile.save_of_ne_directory place] at save
      cases save
      exact .inr rfl
  | unsaved _ _ _ failure =>
      rw [ProfileFile.save_of_ne_directory place] at failure
      cases failure

/-- The records can be told apart in the log and read back from it. -/
structure History.Traceable (records : List ExecutionRecord) : Prop where
  distinct : (records.map (·.id.text)).Nodup
  readBack : ∀ record ∈ records,
    ExecutionRecord.ofText? record.text = some record

namespace History

theorem Traceable.sublist {records fewer : List ExecutionRecord}
    (traceable : Traceable records) (sublist : fewer.Sublist records) :
    Traceable fewer where
  distinct := traceable.distinct.sublist (sublist.map _)
  readBack := fun record member =>
    traceable.readBack record (sublist.subset member)

/-- Traceable records are all written to the log. -/
theorem Traceable.append {records more : List ExecutionRecord}
    (traceable : Traceable (records ++ more)) (keep : Nat) :
    (LogFile.table (records.map LogRow.ofRecord)).append more keep =
      .ok (.table (((records ++ more).rtake keep).map
        LogRow.ofRecord)) := by
  have distinct := traceable.distinct
  rw [List.map_rtake, List.map_append]
  apply LogFile.append_of_distinct keep
  simpa [LogRow.ofRecord, Function.comp_def] using distinct

/-- Rows that can all be read are loaded as what they say. -/
theorem load_of_readable {rows : List LogRow} {logged : List ExecutionRecord}
    (readable : rows.map (fun row => ExecutionRecord.ofText? row.payload) =
      logged.map some) (limit : Nat) :
    (LogFile.table rows).load limit = .ok (logged.rtake limit) := by
  have kept : (rows.rtake limit).filterMap
        (fun row => ExecutionRecord.ofText? row.payload) =
      logged.rtake limit := by
    have onlyRead := congrArg (fun read => (read.rtake limit).filterMap
      (id : Option ExecutionRecord → Option ExecutionRecord)) readable
    simpa [← List.map_rtake, List.filterMap_map, Function.comp_def]
      using onlyRead
  rw [LogFile.load_table, kept]

theorem load_of_readBack {records : List ExecutionRecord}
    (readBack : ∀ record ∈ records,
      ExecutionRecord.ofText? record.text = some record) (limit : Nat) :
    (LogFile.table (records.map LogRow.ofRecord)).load limit =
      .ok (records.rtake limit) := by
  apply load_of_readable
  simp only [List.map_map, Function.comp_def, LogRow.ofRecord]
  exact List.map_congr_left readBack

end History

/-- What a text was made from is read from its characters. -/
theorem Written.ofText?_text (value : Json) :
    Written.ofText? value.text =
      (Reading.document false value.chars).toOption := by
  rw [Written.ofText?, Json.text, String.toList_ofList]

theorem ExecutionRecord.ofText?_text (record : ExecutionRecord) :
    ExecutionRecord.ofText? record.text =
      (Reading.document false record.json.chars).toOption.bind
        ExecutionRecord.decode := by
  rw [ExecutionRecord.ofText?, ExecutionRecord.text, Written.ofText?_text]

theorem ProfileFile.load_text {document : ProfileDocument}
    (decoded : (Reading.document false document.json.chars).toOption.bind
      ProfileDocument.decode = some document) :
    (ProfileFile.text document.json.text).load = .ok document := by
  simp only [ProfileFile.load, Written.ofText?_text, decoded]

theorem Archive.profilesReadBack_of_absent {archive : Archive}
    (absent : archive.directory.profiles = .absent) :
    archive.ProfilesReadBack := by
  intro isSnapshot
  rw [absent] at isSnapshot
  cases isSnapshot

theorem Archive.profilesReadBack_of_decoded {archive : Archive}
    {document : ProfileDocument}
    (snapshot : archive.history.model.snapshot = document)
    (decoded : (Reading.document false document.json.chars).toOption.bind
      ProfileDocument.decode = some document) :
    archive.ProfilesReadBack := by
  intro isSnapshot
  rw [isSnapshot, snapshot]
  exact ProfileFile.load_text decoded

/-- Between two saves the document is not the model's snapshot, so there is
nothing to read back. -/
theorem Archive.profilesReadBack_of_changed {archive : Archive}
    {document : ProfileDocument} {records : List ExecutionRecord}
    (profiles : archive.directory.profiles = .text document.json.text)
    (few : archive.history.unsaved + records.length < History.saveInterval)
    (changed : document.json.chars ≠
      (History.observeAll archive.history.model
        records).snapshot.json.chars) :
    (archive.perform (.append records)).ProfilesReadBack := by
  intro isSnapshot
  rw [archive.profiles_append_of_few few, archive.model_append, profiles]
    at isSnapshot
  exact absurd (String.ofList_injective (ProfileFile.text.inj isSnapshot))
    changed

/-- The next history retains the last records of the log, and its model is
that of the document with those records that are news to it. -/
theorem Archive.reopen_eq {archive : Archive}
    {logged : List ExecutionRecord} {document : ProfileDocument}
    (sizes : Sizes)
    (readBack : ∀ record ∈ logged,
      ExecutionRecord.ofText? record.text = some record)
    (log : archive.directory.log = .table (logged.map LogRow.ofRecord))
    (loads : archive.directory.profiles.load = .ok document) :
    let records := logged.rtake (max sizes.limit 1)
    let known := sizes.model.restore document
    let news := records.filter (History.isNews known)
    archive.reopen sizes =
      ⟨{ records
         model := History.observeAll known news
         limit := max sizes.limit 1
         attached := true
         degraded := false
         unsaved := news.length }, archive.directory⟩ := by
  intro records known news
  have sameDirectory : ({ archive.directory with
      log := .table (logged.map LogRow.ofRecord) } : DataDirectory) =
        archive.directory := by
    rw [← log]
  have opened : archive.directory.log.opened =
      .ok (.table (logged.map LogRow.ofRecord)) := by
    rw [log]
    rfl
  have restored : History.restored sizes.model archive.directory.profiles =
      known := by
    simp only [History.restored, loads, known]
  simp only [reopen, History.openIn, opened, sameDirectory,
    History.load_of_readBack readBack, restored]
  rfl

/-- A record of nothing but a number, a time and a cost. -/
def ExecutionRecord.specimen (number : Nat) (seconds : Int) (cost : Float) :
    ExecutionRecord where
  id := ⟨number⟩
  signature := ⟨"q_0"⟩
  queryText := ""
  executedQuery := ""
  store := "s"
  dialect := .relational
  origin := .routed
  metrics := ⟨cost, cost, false, cost, cost⟩
  outcome := ⟨true, none, 0⟩
  timestamp := ⟨seconds, 0⟩

end Polystore
