import Polystore.Proofs.History.Reopening
import Polystore.Proofs.Learning.Unsampled

/-!
# What is learned on opening

A history that is opened on a directory walks over the records that it retains
and observes those that the saved profiles have missed.  Whether a record was
missed is decided by the newest sample that its pair had when the first record
of the pair was met, while the same walk goes on to change the windows that
this was read from.  The walk learns exactly what is news to the saved
profiles, whatever the order of the records and of their times.
-/

namespace Polystore

namespace History

/-- The record is later than an instant, where there is one. -/
def isAfter (newest : Option Instant) (record : ExecutionRecord) : Bool :=
  match newest with
  | none => true
  | some newest => newest.lt record.timestamp

/-- How far a walk over the retained records has come. -/
structure Walk where
  model : Model
  /-- The newest sample that a pair had when its first record was met. -/
  met : List ((Signature × String) × Option Instant)
  observed : Nat

namespace Walk

/-- The record is observed when it is later than what its pair had at first. -/
def observe (walk : Walk) (newest : Option Instant)
    (record : ExecutionRecord) : Walk :=
  if isAfter newest record then
    { walk with
      model := walk.model.observe record.signature record.store record.sample
      observed := walk.observed + 1 }
  else walk

/-- The next record of the walk. -/
def meet (walk : Walk) (record : ExecutionRecord) : Walk :=
  let pair := (record.signature, record.store)
  match walk.met.lookup pair with
  | some newest => walk.observe newest record
  | none =>
    let newest := walk.model.latestSampleAt? record.signature record.store
    { walk with met := (pair, newest) :: walk.met }.observe newest record

/-- The walk over records from a model on. -/
def along (known : Model) (records : List ExecutionRecord) : Walk :=
  records.foldl meet ⟨known, [], 0⟩

/-- The walk has learned what was news to the model that it started with, and
has changed no pair that it has not met. -/
structure Follows (known : Model) (done : List ExecutionRecord)
    (walk : Walk) : Prop where
  model : walk.model = observeAll known (done.filter (isNews known))
  observed : walk.observed = (done.filter (isNews known)).length
  met : ∀ signature store newest,
    walk.met.lookup (signature, store) = some newest →
      newest = known.latestSampleAt? signature store
  unmet : ∀ signature store, walk.met.lookup (signature, store) = none →
    walk.model.profile? signature store = known.profile? signature store

variable {known : Model} {done : List ExecutionRecord} {walk : Walk}

theorem follows_nil (known : Model) : Follows known [] ⟨known, [], 0⟩ where
  model := rfl
  observed := rfl
  met := by simp
  unmet := fun _ _ _ => rfl

/-- Once a pair has been met, the decision is that of the model at the start. -/
theorem Follows.observe (follows : Follows known done walk)
    (record : ExecutionRecord)
    (isMet : walk.met.lookup (record.signature, record.store) =
      some (known.latestSampleAt? record.signature record.store)) :
    Follows known (done ++ [record])
      (walk.observe (known.latestSampleAt? record.signature record.store)
        record) := by
  have decision : isAfter
      (known.latestSampleAt? record.signature record.store) record =
        isNews known record := rfl
  rw [Walk.observe, decision]
  cases isNew : isNews known record with
  | false =>
      have kept : (done ++ [record]).filter (isNews known) =
          done.filter (isNews known) := by
        simp [isNew]
      exact {
        model := by rw [kept]; exact follows.model
        observed := by rw [kept]; exact follows.observed
        met := follows.met
        unmet := follows.unmet }
  | true =>
      have kept : (done ++ [record]).filter (isNews known) =
          done.filter (isNews known) ++ [record] := by
        simp [isNew]
      constructor
      · rw [kept, observeAll_append, ← follows.model]
        rfl
      · rw [kept, List.length_append, ← follows.observed]
        rfl
      · exact follows.met
      · intro signature store notMet
        have observed := Model.profile?_observe walk.model record.signature
          signature record.store store record.sample
        rw [if_neg] at observed
        · exact observed.trans (follows.unmet signature store notMet)
        · rintro ⟨rfl, rfl⟩
          exact absurd (notMet.symm.trans isMet) (by simp)

/-- The decision on a pair can be noted before its first record is met. -/
theorem Follows.note (follows : Follows known done walk)
    (signature : Signature) (store : String) :
    let newest := known.latestSampleAt? signature store
    Follows known done
      { walk with met := ((signature, store), newest) :: walk.met } := by
  intro newest
  refine ⟨follows.model, follows.observed, ?_, ?_⟩
  · intro other target noted found
    rw [List.lookup_cons] at found
    split at found
    · rename_i same
      cases found
      cases eq_of_beq same
      rfl
    · exact follows.met _ _ _ found
  · intro other target notFound
    rw [List.lookup_cons] at notFound
    split at notFound
    · cases notFound
    · exact follows.unmet _ _ notFound

theorem Follows.meet (follows : Follows known done walk)
    (record : ExecutionRecord) :
    Follows known (done ++ [record]) (walk.meet record) := by
  rw [Walk.meet]
  cases isMet : walk.met.lookup (record.signature, record.store) with
  | some newest =>
      have isNewest := follows.met _ _ _ isMet
      subst isNewest
      exact follows.observe record isMet
  | none =>
      have untouched := follows.unmet _ _ isMet
      have isNewest : walk.model.latestSampleAt? record.signature
            record.store =
          known.latestSampleAt? record.signature record.store := by
        rw [Model.latestSampleAt?, untouched]
        rfl
      simp only [isNewest]
      apply (follows.note record.signature record.store).observe
      exact List.lookup_cons_self

theorem follows_along (known : Model) (records : List ExecutionRecord) :
    Follows known records (along known records) := by
  -- The induction is on what is left, for any part that is done.
  have run : ∀ (done : List ExecutionRecord) (walk : Walk),
      Follows known done walk →
      Follows known (done ++ records) (records.foldl meet walk) := by
    induction records with
    | nil =>
        intro done walk follows
        rwa [List.append_nil]
    | cons record records induction =>
        intro done walk follows
        have next := induction _ _ (follows.meet record)
        rwa [List.append_assoc] at next
  exact run [] _ (follows_nil known)

end Walk

end History

namespace Model

variable {model : Model} {signature : Signature} {store : String}

theorem Settled.window_eq (settled : model.Settled) (signature : Signature)
    (store : String) :
    (model.profile? signature store).map (·.window) =
      if model.profile? signature store = none then none
      else some ⟨max model.capacity 1, model.samplesOf signature store⟩ := by
  cases known : model.profile? signature store with
  | none => rfl
  | some profile =>
      have capacity := (settled.profile known).capacity_eq
      rw [samplesOf_of_some known, ← capacity]
      rfl

theorem Settled.length_samplesOf_le (settled : model.Settled) :
    (model.samplesOf signature store).length ≤ max model.capacity 1 := by
  cases known : model.profile? signature store with
  | none =>
      rw [samplesOf_of_none known]
      exact Nat.zero_le _
  | some profile =>
      rw [samplesOf_of_some known]
      exact (settled.profile known).size_le

theorem Settled.window_getD (settled : model.Settled) (now : Instant) :
    ((model.profile? signature store).getD
        (.empty store model.capacity now)).window =
      ⟨max model.capacity 1,
        (model.samplesOf signature store).rtake (max model.capacity 1)⟩ := by
  have window := settled.window_eq signature store
  rw [List.rtake_of_length_le settled.length_samplesOf_le]
  cases known : model.profile? signature store with
  | none =>
      rw [samplesOf_of_none known]
      rfl
  | some profile =>
      rw [known] at window
      exact Option.some.inj window

theorem profile?_observe_eq_none_iff (record : ExecutionRecord) :
    (model.observe record.signature record.store
        record.sample).profile? signature store = none ↔
      model.profile? signature store = none ∧
        History.samplesOf signature store [record] = [] := by
  rcases observe_cases model record signature store with
    ⟨contributes, profile, known, -⟩ | ⟨contributes, untouched⟩
  · simp [contributes, known]
  · simp [contributes, untouched]

theorem Settled.samplesOf_observe (settled : model.Settled)
    (record : ExecutionRecord) :
    (model.observe record.signature record.store
        record.sample).samplesOf signature store =
      (model.samplesOf signature store ++
        History.samplesOf signature store [record]).rtake
          (max model.capacity 1) := by
  rcases observe_cases model record signature store with
    ⟨contributes, profile, known, pushed⟩ | ⟨contributes, untouched⟩
  · rw [samplesOf_of_some known, pushed, settled.window_getD,
      Window.push_rtake (by omega), contributes]
  · rw [contributes, List.append_nil, samplesOf, samplesOf, untouched]
    exact (List.rtake_of_length_le settled.length_samplesOf_le).symm

theorem profile?_observeAll_eq_none_iff (model : Model)
    (records : List ExecutionRecord) :
    (History.observeAll model records).profile? signature store = none ↔
      model.profile? signature store = none ∧
        History.samplesOf signature store records = [] := by
  induction records generalizing model with
  | nil => simp [History.observeAll, History.samplesOf]
  | cons record records induction =>
      have rest := induction (model.observe record.signature record.store
        record.sample)
      rw [profile?_observe_eq_none_iff, and_assoc, ← List.append_eq_nil_iff,
        ← History.samplesOf_append] at rest
      exact rest

theorem Settled.samplesOf_observeAll (settled : model.Settled)
    (records : List ExecutionRecord) :
    (History.observeAll model records).samplesOf signature store =
      (model.samplesOf signature store ++
        History.samplesOf signature store records).rtake
          (max model.capacity 1) := by
  induction records generalizing model with
  | nil =>
      rw [History.samplesOf, List.filter_nil, List.map_nil, List.append_nil]
      exact (List.rtake_of_length_le settled.length_samplesOf_le).symm
  | cons record records induction =>
      have rest := induction (settled.observe record.signature record.store
        record.sample)
      rw [capacity_observe, settled.samplesOf_observe,
        List.rtake_rtake_append, List.append_assoc,
        ← History.samplesOf_append] at rest
      exact rest

end Model

namespace ProfileFile

/-- The samples that are saved of a signature on a store.  A document that
cannot be read has saved none. -/
def samples? (file : ProfileFile) (signature : Signature) (store : String) :
    Option (List Sample) :=
  match file.load with
  | .ok document =>
      (document.profile? signature store).map (·.window.samples)
  | .error _ => none

theorem sorted_of_load {file : ProfileFile} {document : ProfileDocument}
    (loads : file.load = .ok document) : document.Sorted := by
  cases file with
  | absent =>
      cases loads
      exact ProfileDocument.sorted_nil
  | text content =>
      simp only [load] at loads
      split at loads
      · rename_i found decoded
        cases loads
        obtain ⟨tree, -, isDocument⟩ := Option.bind_eq_some_iff.mp decoded
        exact ProfileDocument.sorted_of_decode isDocument
      · cases loads
  | directory => cases loads

theorem samples?_text {document : ProfileDocument}
    (decoded : (Reading.document false document.json.chars).toOption.bind
      ProfileDocument.decode = some document)
    (signature : Signature) (store : String) :
    (ProfileFile.text document.json.text).samples? signature store =
      (document.profile? signature store).map (·.window.samples) := by
  rw [samples?, load_text decoded]

end ProfileFile

namespace History

variable {signature : Signature} {store : String}

theorem settled_restored (model : Model) (file : ProfileFile) :
    (restored model file).Settled := by
  rw [restored]
  cases file.load with
  | ok document => exact Model.settled_restore model document
  | error fault => exact Model.settled_clear model

/-- A restored model has the saved samples that fit, and no others. -/
theorem samples_restored (model : Model) (file : ProfileFile)
    (signature : Signature) (store : String) :
    ((restored model file).profile? signature store).map (·.window.samples) =
      (file.samples? signature store).map
        (List.rtake · (max model.capacity 1)) := by
  rw [restored, ProfileFile.samples?]
  cases loads : file.load with
  | ok document =>
      have taken := Model.profile?_restore model
        (ProfileFile.sorted_of_load loads) signature store
      simp only [taken, Option.map_map]
      rfl
  | error fault => rfl

theorem profile?_restored_eq_none_iff (model : Model) (file : ProfileFile) :
    (restored model file).profile? signature store = none ↔
      file.samples? signature store = none := by
  have samples := samples_restored model file signature store
  rw [← Option.map_eq_none_iff, samples, Option.map_eq_none_iff]

theorem samplesOf_restored (model : Model) (file : ProfileFile) :
    (restored model file).samplesOf signature store =
      ((file.samples? signature store).getD []).rtake
        (max model.capacity 1) := by
  rw [Model.samplesOf, samples_restored]
  cases file.samples? signature store with
  | none => exact (List.rtake_nil _).symm
  | some samples => rfl

/-- A record is news when it is later than all samples of its pair. -/
theorem isNews_eq_all (model : Model) (record : ExecutionRecord) :
    isNews model record =
      (model.samplesOf record.signature record.store).all
        (·.timestamp.lt record.timestamp) := by
  rw [← Bool.not_inj_iff, List.not_all_eq_any_not, Bool.eq_iff_iff,
    Bool.not_eq_true', isNews_eq_false_iff, List.any_eq_true]
  constructor
  · rintro ⟨profile, known, sample, member, notLater⟩
    rw [Model.samplesOf_of_some known]
    exact ⟨sample, member, by rw [notLater]; rfl⟩
  · rintro ⟨sample, member, notLater⟩
    cases known : model.profile? record.signature record.store with
    | none =>
        rw [Model.samplesOf_of_none known] at member
        cases member
    | some profile =>
        rw [Model.samplesOf_of_some known] at member
        exact ⟨profile, rfl, sample, member, by simpa using notLater⟩

theorem samplesOf_news (model : Model) (signature : Signature)
    (store : String) (records : List ExecutionRecord) :
    samplesOf signature store (records.filter (isNews model)) =
      samplesOf signature store (records.filter fun record =>
        (model.samplesOf signature store).all
          (·.timestamp.lt record.timestamp)) := by
  rw [samplesOf, samplesOf, List.filter_filter, List.filter_filter]
  congr 1
  apply List.filter_congr
  intro record member
  cases concerned : record.concerns signature store with
  | false => rfl
  | true =>
      obtain ⟨rfl, rfl⟩ := ExecutionRecord.concerns_iff.mp concerned
      rw [isNews_eq_all]

/-- A history that is opened retains the last records of the log.  The walk
over them leaves of every pair the saved samples that fit, and behind them
those of the records that are later than all of these; where there are
neither there is no profile. -/
theorem openIn_learns {directory : DataDirectory} {rows : List LogRow}
    {logged : List ExecutionRecord} (model : Model) {limit : Nat}
    (retainsSome : 0 < limit) (hasRoom : 0 < model.capacity)
    (opens : directory.log.opened = .ok (.table rows))
    (readable : rows.map (fun row => ExecutionRecord.ofText? row.payload) =
      logged.map some) :
    let history := (openIn directory model limit).1
    let records := logged.rtake limit
    let walk := Walk.along (restored model directory.profiles) records
    history.isPersistent = true ∧ history.records = records ∧
      history.model = walk.model ∧ history.unsaved = walk.observed ∧
      ∀ signature store,
        let saved := directory.profiles.samples? signature store
        let cut := (saved.getD []).rtake model.capacity
        let missed := samplesOf signature store (records.filter fun record =>
          cut.all (·.timestamp.lt record.timestamp))
        (history.model.profile? signature store).map (·.window) =
          if saved = none ∧ missed = [] then none
          else some ⟨model.capacity,
            (cut ++ missed).rtake model.capacity⟩ := by
  intro history records walk
  have limitIs : max limit 1 = limit := Nat.max_eq_left retainsSome
  have capacityIs : max model.capacity 1 = model.capacity :=
    Nat.max_eq_left hasRoom
  let known := restored model directory.profiles
  let news := records.filter (isNews known)
  have opened : history =
      { records
        model := observeAll known news
        limit := limit
        attached := true
        degraded := false
        unsaved := news.length } := by
    simp only [history, openIn, opens, load_of_readable readable, limitIs,
      records, known, news]
  have follows : Walk.Follows known records walk :=
    Walk.follows_along known records
  have learned : history.model = observeAll known news := by rw [opened]
  have settled : known.Settled := settled_restored model directory.profiles
  have capacity : max known.capacity 1 = model.capacity :=
    (congrArg (max · 1) (capacity_restored model _)).trans capacityIs
  refine ⟨by rw [opened]; rfl, by rw [opened], learned.trans follows.model.symm,
    by rw [opened]; exact follows.observed.symm, ?_⟩
  intro signature store saved cut missed
  have isCut : known.samplesOf signature store = cut := by
    rw [samplesOf_restored, capacityIs]
  have isMissed : samplesOf signature store news = missed := by
    rw [samplesOf_news, isCut]
  rw [learned, (settled.observeAll news).window_eq signature store,
    capacity_observeAll, settled.samplesOf_observeAll, capacity, isCut,
    isMissed]
  simp only [Model.profile?_observeAll_eq_none_iff, isMissed, known,
    profile?_restored_eq_none_iff, saved]

/-- Four records of one pair, of which the last three are retained. -/
def backAndForth : List ExecutionRecord :=
  [.specimen 1 20 1.0, .specimen 2 10 1.0, .specimen 3 7 1.0,
    .specimen 4 9 1.0]

/-- Profiles whose window does not end with the newest sample. -/
def savedBackAndForth : ProfileDocument :=
  let samples := [ExecutionRecord.specimen 5 9 1.0, .specimen 6 3 1.0,
    .specimen 7 7 1.0].map (·.sample)
  [("q_0", [("s", ⟨"s", ⟨5, samples⟩, .zero, 0.0, 0.0, ⟨7, 0⟩⟩)])]

/-- The saved sample of the ninth second does not fit, so the record of that
time is news, and it stays so when a later one has been observed before. -/
theorem openIn_learns_backAndForth :
    let directory : DataDirectory :=
      ⟨.table (backAndForth.map LogRow.ofRecord),
        .text savedBackAndForth.json.text⟩
    let history := (openIn directory (.empty 2 50) 3).1
    0 < 3 ∧ 0 < (Model.empty 2 50).capacity ∧
      directory.log.opened =
        .ok (.table (backAndForth.map LogRow.ofRecord)) ∧
      (backAndForth.map LogRow.ofRecord).map
          (fun row => ExecutionRecord.ofText? row.payload) =
        backAndForth.map some ∧
      history.records = backAndForth.tail ∧
      (history.model.profile? ⟨"q_0"⟩ "s").map (·.window) =
        some ⟨2, [(ExecutionRecord.specimen 2 10 1.0).sample,
          (ExecutionRecord.specimen 4 9 1.0).sample]⟩ := by
  intro directory history
  have readable : (backAndForth.map LogRow.ofRecord).map
        (fun row => ExecutionRecord.ofText? row.payload) =
      backAndForth.map some := by
    simp only [List.map_map, Function.comp_def, LogRow.ofRecord,
      ExecutionRecord.ofText?_text]
    decide +kernel
  have decoded :
      (Reading.document false savedBackAndForth.json.chars).toOption.bind
          ProfileDocument.decode =
        some savedBackAndForth := by
    decide +kernel
  have saved : directory.profiles.samples? ⟨"q_0"⟩ "s" = _ :=
    ProfileFile.samples?_text decoded ⟨"q_0"⟩ "s"
  have learns := openIn_learns (.empty 2 50) (by decide : 0 < 3) (by decide)
    (rfl : directory.log.opened = _) readable
  have window := learns.2.2.2.2 ⟨"q_0"⟩ "s"
  rw [saved] at window
  exact ⟨by decide, by decide, rfl, readable, learns.2.1, window⟩

end History

end Polystore
