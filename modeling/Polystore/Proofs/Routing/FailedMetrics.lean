import Polystore.Proofs.History.Reopening
import Polystore.Proofs.History.Transparency
import Polystore.Routing.Selection

/-!
# Metrics of failed executions

What a failed execution has cost is recorded like the cost of any other one,
but it is never looked at.  To see this, all costs of failures are muted: what
is decided is the same before and after, and muting commutes with everything
that happens to a history.  Two histories that are alike once they are muted
therefore stay so and decide alike.
-/

namespace Polystore

/-- The sample without costs unless it is one of a success. -/
def Sample.muted (sample : Sample) : Sample :=
  if sample.success then sample
  else { sample with
    executionTime := 0.0, latency := 0.0, cpuTime := 0.0, memory := 0.0 }

/-- The record without metrics unless it is one of a success. -/
def ExecutionRecord.muted (record : ExecutionRecord) : ExecutionRecord :=
  if record.outcome.success then record else { record with metrics := .zero }

def Window.map {α β : Type} (f : α → β) (window : Window α) : Window β :=
  ⟨window.capacity, window.samples.map f⟩

def Profile.muted (profile : Profile) : Profile :=
  { profile with window := profile.window.map Sample.muted }

def Model.muted (model : Model) : Model :=
  { model with profiles := model.profiles.mapValues fun stores =>
      stores.mapValues Profile.muted }

/-- The history with all failures muted. -/
def History.muted (history : History) : History :=
  { history with
    records := history.records.map ExecutionRecord.muted
    model := history.model.muted }

def Operation.muted : Operation → Operation
  | .append records => .append (records.map ExecutionRecord.muted)
  | .clear => .clear
  | .flush => .flush

/-- What is selected is the same when only the others are changed. -/
theorem filter_map_of_fixed {α : Type} {change : α → α} {selects : α → Bool}
    (selected : ∀ one, selects (change one) = selects one)
    (fixed : ∀ one, selects one = true → change one = one) (all : List α) :
    (all.map change).filter selects = all.filter selects := by
  induction all with
  | nil => rfl
  | cons one all induction =>
      by_cases isSelected : selects one = true
      · simp [isSelected, induction, fixed one isSelected]
      · simp [isSelected, selected, induction]

namespace Sample

@[simp] theorem success_muted (sample : Sample) :
    sample.muted.success = sample.success := by
  rw [muted]
  split <;> rfl

@[simp] theorem timestamp_muted (sample : Sample) :
    sample.muted.timestamp = sample.timestamp := by
  rw [muted]
  split <;> rfl

theorem muted_of_success {sample : Sample} (success : sample.success = true) :
    sample.muted = sample := by
  rw [muted, if_pos success]

end Sample

namespace ExecutionRecord

variable {record : ExecutionRecord}

theorem muted_of_success (success : record.outcome.success = true) :
    record.muted = record := by
  rw [muted, if_pos success]

theorem muted_of_failure (failure : ¬record.outcome.success = true) :
    record.muted = { record with metrics := .zero } := by
  rw [muted, if_neg failure]

@[simp] theorem outcome_muted (record : ExecutionRecord) :
    record.muted.outcome = record.outcome := by
  rw [muted]
  split <;> rfl

@[simp] theorem signature_muted (record : ExecutionRecord) :
    record.muted.signature = record.signature := by
  rw [muted]
  split <;> rfl

@[simp] theorem store_muted (record : ExecutionRecord) :
    record.muted.store = record.store := by
  rw [muted]
  split <;> rfl

@[simp] theorem sample_muted (record : ExecutionRecord) :
    record.muted.sample = record.sample.muted := by
  by_cases success : record.outcome.success = true
  · have ofSample : record.sample.success = true := success
    rw [muted_of_success success, Sample.muted_of_success ofSample]
  · have ofSample : ¬record.sample.success = true := success
    rw [muted_of_failure success, Sample.muted, if_neg ofSample]
    rfl

@[simp] theorem accepts_muted (filter : RecordFilter)
    (record : ExecutionRecord) :
    filter.accepts record.muted = filter.accepts record := by
  rw [muted]
  split <;> rfl

end ExecutionRecord

/-- Only successes count, and they are not muted. -/
theorem Summary.ofSamples_muted (samples : List Sample) :
    Summary.ofSamples (samples.map Sample.muted) =
      Summary.ofSamples samples := by
  have sameSuccesses : (samples.map Sample.muted).filter (·.success) =
      samples.filter (·.success) :=
    filter_map_of_fixed Sample.success_muted
      (fun _ success => Sample.muted_of_success success) samples
  simp only [ofSamples, sameSuccesses, List.length_map]

namespace Window

variable {α β : Type}

@[simp] theorem size_map (f : α → β) (window : Window α) :
    (window.map f).size = window.size :=
  List.length_map f

@[simp] theorem capacity_map (f : α → β) (window : Window α) :
    (window.map f).capacity = window.capacity := rfl

theorem map_push (f : α → β) (window : Window α) (sample : α) :
    (window.push sample).map f = (window.map f).push (f sample) := by
  rw [push, push, size_map, capacity_map]
  split <;> simp [map]

end Window

namespace Profile

@[simp] theorem samples_muted (profile : Profile) :
    profile.muted.samples = profile.samples :=
  Window.size_map Sample.muted profile.window

theorem muted_recompute (profile : Profile) (saturation : Nat) :
    (profile.recompute saturation).muted =
      profile.muted.recompute saturation := by
  have sameSummary := Summary.ofSamples_muted profile.window.samples
  simp only [recompute, muted, Window.size_map]
  simp only [Window.map, sameSummary]

theorem muted_observe (profile : Profile) (sample : Sample)
    (saturation : Nat) :
    (profile.observe sample saturation).muted =
      profile.muted.observe sample.muted saturation := by
  rw [observe, observe, muted_recompute]
  simp only [muted, Window.map_push, Sample.timestamp_muted]

theorem compareProfiles_muted (left right : Profile) :
    Model.compareProfiles left.muted right.muted =
      Model.compareProfiles left right := by
  rw [Model.compareProfiles, samples_muted, samples_muted]
  rfl

end Profile

namespace Model

variable {model : Model}

theorem storesOf_muted (model : Model) (signature : Signature) :
    model.muted.storesOf signature =
      (model.storesOf signature).mapValues Profile.muted := by
  rw [storesOf, muted, Keyed.get?_mapValues, storesOf]
  cases model.profiles.get? signature.text <;> rfl

@[simp] theorem profile?_muted (model : Model) (signature : Signature)
    (store : String) :
    model.muted.profile? signature store =
      (model.profile? signature store).map Profile.muted := by
  rw [profile?, storesOf_muted, Keyed.get?_mapValues, profile?]

theorem muted_setProfile (model : Model) (signature : Signature)
    (store : String) (profile : Profile) :
    (model.setProfile signature store profile).muted =
      model.muted.setProfile signature store profile.muted := by
  simp only [setProfile, storesOf_muted]
  simp only [muted, Keyed.mapValues_insert]

theorem muted_observe (model : Model) (signature : Signature)
    (store : String) (sample : Sample) :
    (model.observe signature store sample).muted =
      model.muted.observe signature store sample.muted := by
  have known : ((model.profile? signature store).getD
        (.empty store model.capacity sample.timestamp)).muted =
      ((model.profile? signature store).map Profile.muted).getD
        (.empty store model.capacity sample.timestamp) := by
    cases model.profile? signature store <;> rfl
  have enlisted : ∀ known : Model, (known.enlist signature store).muted =
      known.muted.enlist signature store := fun _ => rfl
  rw [observe, observe, enlisted, muted_setProfile, Profile.muted_observe,
    known, profile?_muted, Sample.timestamp_muted]
  rfl

theorem profilesFor_muted (model : Model) (signature : Signature) :
    model.muted.profilesFor signature =
      (model.profilesFor signature).map Profile.muted := by
  have listed : model.muted.listed signature = model.listed signature := rfl
  rw [profilesFor, listed, profilesFor, List.map_filterMap]
  exact List.filterMap_congr fun store _ => profile?_muted model signature store

theorem best?_map_muted (profiles : List Profile) :
    best? (profiles.map Profile.muted) =
      (best? profiles).map Profile.muted := by
  cases profiles with
  | nil => rfl
  | cons first rest =>
      simp only [best?, List.map_cons, Option.map_some, List.foldl_map]
      refine congrArg some (List.foldl_hom Profile.muted ?_)
      intro best next
      rw [Profile.compareProfiles_muted]
      split <;> rfl

theorem predict?_muted (model : Model) (signature : Signature) :
    model.muted.predict? signature = model.predict? signature := by
  rw [predict?, predict?, profilesFor_muted, best?_map_muted,
    Option.map_map, List.map_map]
  refine Option.map_congr fun best _ => ?_
  simp only [Function.comp_apply, Profile.samples_muted]
  rfl

theorem sampleCount_muted (model : Model) (signature : Signature) :
    model.muted.sampleCount signature = model.sampleCount signature := by
  simp only [sampleCount, profilesFor_muted, List.foldl_map,
    Profile.samples_muted]

end Model

theorem Selection.select_muted (settings : Settings) (registry : Registry)
    (model : Model) (query : String) (dialect : Dialect)
    (located : List Candidate) :
    select settings registry model.muted query dialect located =
      select settings registry model query dialect located := by
  have sameScore : ∀ signature candidate,
      candidateScore settings model.muted signature candidate =
        candidateScore settings model signature candidate := by
    intro signature candidate
    rw [candidateScore, candidateScore, Model.profile?_muted]
    cases model.profile? signature candidate.name <;> rfl
  simp only [select, Model.predict?_muted, sameScore]

theorem Figures.ofRecords_muted (records : List ExecutionRecord) :
    Figures.ofRecords (records.map ExecutionRecord.muted) =
      Figures.ofRecords records := by
  have sameSuccess : ∀ record : ExecutionRecord,
      record.muted.outcome.success = record.outcome.success := by simp
  have sameSuccesses : (records.map ExecutionRecord.muted).filter
        (fun record => record.outcome.success) =
      records.filter fun record => record.outcome.success :=
    filter_map_of_fixed sameSuccess
      (fun _ success => ExecutionRecord.muted_of_success success) records
  simp only [ofRecords, sameSuccesses, List.length_map]

theorem Statistics.ofRecords_muted (records : List ExecutionRecord) :
    Statistics.ofRecords (records.map ExecutionRecord.muted) =
      Statistics.ofRecords records := by
  have sameStores : storesOf (records.map ExecutionRecord.muted) =
      storesOf records := by
    simp only [storesOf, List.map_map, Function.comp_def,
      ExecutionRecord.store_muted]
  simp only [ofRecords, sameStores, List.filter_map, Function.comp_def,
    ExecutionRecord.store_muted, Figures.ofRecords_muted]

namespace History

theorem statistics_muted (history : History) (filter : RecordFilter) :
    history.muted.statistics filter = history.statistics filter := by
  simp only [statistics, muted, List.filter_map, Function.comp_def,
    ExecutionRecord.accepts_muted, Statistics.ofRecords_muted]

theorem muted_observeAll (model : Model) (records : List ExecutionRecord) :
    (observeAll model records).muted =
      observeAll model.muted (records.map ExecutionRecord.muted) := by
  induction records generalizing model with
  | nil => rfl
  | cons record records induction =>
      have observed : (model.observe record.signature record.store
            record.sample).muted =
          model.muted.observe record.muted.signature record.muted.store
            record.muted.sample := by
        rw [record.signature_muted, record.store_muted, record.sample_muted]
        exact model.muted_observe _ _ _
      exact (induction _).trans (congrArg
        (observeAll · (records.map ExecutionRecord.muted)) observed)

theorem muted_after (history : History) (operation : Operation) :
    (history.after operation).muted =
      history.muted.after operation.muted := by
  cases operation with
  | append records =>
      by_cases none : records = []
      · subst none
        rfl
      · simp only [after, Operation.muted, List.isEmpty_iff, none,
          List.map_eq_nil_iff, if_false]
        simp only [muted, retain_eq, learn, muted_observeAll,
          List.map_rtake, List.map_append]
  | clear => rfl
  | flush => rfl

variable {left right : History}

theorem SameContents.muted (same : SameContents left right) :
    SameContents left.muted right.muted where
  records := congrArg (List.map ExecutionRecord.muted) same.records
  model := congrArg Model.muted same.model
  limit := same.limit

/-- Whatever is decided after the one history is decided after the other. -/
structure DecidesLike (left right : History) : Prop where
  profiles : ∀ signature store,
    (left.model.profile? signature store).map
        (fun profile => (profile.summary, profile.score, profile.confidence)) =
      (right.model.profile? signature store).map
        (fun profile => (profile.summary, profile.score, profile.confidence))
  predict? : ∀ signature,
    left.model.predict? signature = right.model.predict? signature
  sampleCount : ∀ signature,
    left.model.sampleCount signature = right.model.sampleCount signature
  select : ∀ settings registry query dialect located,
    Selection.select settings registry left.model query dialect located =
      Selection.select settings registry right.model query dialect located
  statistics : ∀ filter, left.statistics filter = right.statistics filter

/-- What is decided does not depend on what is muted. -/
theorem SameContents.decidesLike
    (same : SameContents left.muted right.muted) : left.DecidesLike right := by
  have sameModel : left.model.muted = right.model.muted := same.model
  have mutedFigures : ∀ known : Option Profile,
      (known.map Profile.muted).map
          (fun profile => (profile.summary, profile.score,
            profile.confidence)) =
        known.map fun profile => (profile.summary, profile.score,
          profile.confidence) := by
    rintro (_ | known) <;> rfl
  exact {
    profiles := by
      intro signature store
      rw [← mutedFigures, ← Model.profile?_muted, sameModel,
        Model.profile?_muted, mutedFigures]
    predict? := by
      intro signature
      rw [← Model.predict?_muted, sameModel, Model.predict?_muted]
    sampleCount := by
      intro signature
      rw [← Model.sampleCount_muted, sameModel, Model.sampleCount_muted]
    select := by
      intro settings registry query dialect located
      rw [← Selection.select_muted, sameModel, Selection.select_muted]
    statistics := by
      intro filter
      rw [← statistics_muted, statistics, same.records, ← statistics,
        statistics_muted] }

end History

/-- The records are equal, or they are failures that differ in nothing but
their metrics. -/
def ExecutionRecord.Alike (record other : ExecutionRecord) : Prop :=
  ∃ metrics, other = { record with metrics } ∧
    (record.outcome.success = true → metrics = record.metrics)

/-- The operations are equal, or they append records that are alike one by
one. -/
inductive Operation.Alike : Operation → Operation → Prop where
  | append {records others : List ExecutionRecord} :
      List.Forall₂ ExecutionRecord.Alike records others →
      Alike (.append records) (.append others)
  | clear : Alike .clear .clear
  | flush : Alike .flush .flush

theorem ExecutionRecord.Alike.muted_eq {record other : ExecutionRecord}
    (alike : record.Alike other) : record.muted = other.muted := by
  obtain ⟨metrics, rfl, sameMetrics⟩ := alike
  by_cases success : record.outcome.success = true
  · rw [sameMetrics success]
  · rw [muted_of_failure success, muted, if_neg success]

theorem Operation.Alike.muted_eq {operation other : Operation}
    (alike : operation.Alike other) : operation.muted = other.muted := by
  cases alike with
  | append records =>
      refine congrArg Operation.append ?_
      induction records with
      | nil => rfl
      | cons first _ induction =>
          rw [List.map_cons, List.map_cons, first.muted_eq, induction]
  | clear => rfl
  | flush => rfl

namespace Archive

variable {left right : Archive}

/-- One operation that is alike on both sides. -/
theorem sameContents_muted_performDuring
    (same : left.history.muted.SameContents right.history.muted)
    (first second : Outage) {operation other : Operation}
    (alike : operation.Alike other) :
    (left.performDuring first operation).history.muted.SameContents
      (right.performDuring second other).history.muted := by
  have leftChange := (sameContents_perform
    ⟨left.history, left.directory.impaired first⟩ operation).muted
  have rightChange := (sameContents_perform
    ⟨right.history, right.directory.impaired second⟩ other).muted
  rw [History.muted_after] at leftChange rightChange
  rw [alike.muted_eq] at leftChange
  exact leftChange.trans ((same.after other.muted).trans rightChange.symm)

theorem sameContents_muted_run
    (same : left.history.muted.SameContents right.history.muted)
    {steps others : List (Operation × Outage)}
    (alike : List.Forall₂ (fun step other => step.1.Alike other.1) steps
      others) :
    (left.run steps).history.muted.SameContents
      (right.run others).history.muted := by
  induction alike generalizing left right with
  | nil => exact same
  | cons first _ induction =>
      exact induction (sameContents_muted_performDuring same _ _ first)

/-- From the same history on, the metrics of failed executions change nothing
that is decided: neither figures, score and confidence of a profile nor
recommendations, selections and statistics.  The directory behind the
history may refuse to be written at different times. -/
theorem decidesLike_run (archive : Archive)
    {steps others : List (Operation × Outage)}
    (alike : List.Forall₂ (fun step other => step.1.Alike other.1) steps
      others) :
    (archive.run steps).history.DecidesLike (archive.run others).history :=
  (sameContents_muted_run ⟨rfl, rfl, rfl⟩ alike).decidesLike

/-- The second execution has failed, and what it has cost is still retained. -/
theorem decidesLike_run_failed_specimen :
    let failed (cost : Float) : ExecutionRecord :=
      { ExecutionRecord.specimen 2 20 cost with
        outcome := ⟨false, some "refused", 0⟩ }
    let steps (cost : Float) : List (Operation × Outage) :=
      [(.append [.specimen 1 10 8.0, failed cost], .none), (.flush, .none)]
    let archive := start ⟨64, 2, 50⟩ .directory
    (archive.run (steps 1.0)).history.DecidesLike
        (archive.run (steps 512.0)).history ∧
      (archive.run (steps 1.0)).history.records ≠
        (archive.run (steps 512.0)).history.records := by
  intro failed steps archive
  have sameSuccess : (ExecutionRecord.specimen 1 10 8.0).Alike
      (.specimen 1 10 8.0) := ⟨_, rfl, fun _ => rfl⟩
  have alikeFailures : (failed 1.0).Alike (failed 512.0) :=
    ⟨(failed 512.0).metrics, rfl, by rintro ⟨⟩⟩
  constructor
  · refine decidesLike_run archive (.cons ?_ (.cons .flush .nil))
    exact .append (.cons sameSuccess (.cons alikeFailures .nil))
  · decide +kernel

end Archive

end Polystore
