import Polystore.History.Store
import Polystore.Proofs.Suffix
import Polystore.Proofs.Keyed

/-!
# What a model remembers

A model that observes records keeps, for every signature and store, the last
samples of the records of that pair and nothing of any other pair.  The
window of a pair is therefore a function of the list of its samples alone.
-/

namespace Polystore

namespace Window

variable {α : Type}

/-- The window that samples leave behind one after the other. -/
def ofSamples? (capacity : Nat) (samples : List α) : Option (Window α) :=
  if samples.isEmpty then none
  else some ⟨max capacity 1, samples.rtake (max capacity 1)⟩

@[simp] theorem ofSamples?_nil (capacity : Nat) :
    ofSamples? capacity ([] : List α) = none := rfl

theorem ofSamples?_of_ne_nil {samples : List α} (capacity : Nat)
    (nonempty : samples ≠ []) :
    ofSamples? capacity samples =
      some ⟨max capacity 1, samples.rtake (max capacity 1)⟩ := by
  simp [ofSamples?, nonempty]

theorem ofSamples?_isSome_iff {capacity : Nat} {samples : List α} :
    (ofSamples? capacity samples).isSome = true ↔ samples ≠ [] := by
  cases samples <;> simp [ofSamples?]

theorem samples_of_ofSamples?_eq_some {capacity : Nat} {samples : List α}
    {window : Window α} (left : ofSamples? capacity samples = some window) :
    window.samples = samples.rtake (max capacity 1) := by
  cases samples with
  | nil => simp at left
  | cons sample samples =>
      rw [ofSamples?_of_ne_nil capacity (by simp)] at left
      cases left
      rfl

theorem push_rtake {capacity : Nat} (positive : 0 < capacity)
    (samples : List α) (sample : α) :
    push ⟨capacity, samples.rtake capacity⟩ sample =
      ⟨capacity, (samples ++ [sample]).rtake capacity⟩ := by
  have lengths := List.length_rtake capacity samples
  have split : (samples ++ [sample]).rtake capacity =
      samples.rtake (capacity - 1) ++ [sample] :=
    List.rtake_append_of_length_le samples
      (by simpa using Nat.succ_le_of_lt positive)
  by_cases full : capacity ≤ samples.length
  · have isFull : capacity ≤ size ⟨capacity, samples.rtake capacity⟩ := by
      rw [size, lengths]
      omega
    have shifted : (samples.rtake capacity).tail =
        samples.rtake (capacity - 1) := by
      have amount : samples.length - capacity + 1 =
          samples.length - (capacity - 1) := by omega
      simp only [List.rtake, List.tail_drop, amount]
    rw [push, if_pos isFull, split, shifted]
  · have notFull :
        ¬capacity ≤ size ⟨capacity, samples.rtake capacity⟩ := by
      rw [size, lengths]
      omega
    have whole : samples.rtake capacity = samples :=
      List.rtake_of_length_le (by omega)
    have wholeBefore : samples.rtake (capacity - 1) = samples :=
      List.rtake_of_length_le (by omega)
    rw [push, if_neg notFull, split]
    simp [whole, wholeBefore]

theorem push_ofSamples? (capacity : Nat) (samples : List α) (sample : α) :
    some (((ofSamples? capacity samples).getD (.empty capacity)).push sample) =
      ofSamples? capacity (samples ++ [sample]) := by
  have positive : 0 < max capacity 1 := by omega
  have start : ((ofSamples? capacity samples).getD (.empty capacity)) =
      ⟨max capacity 1, samples.rtake (max capacity 1)⟩ := by
    by_cases none : samples = []
    · subst samples
      simp [empty]
    · simp [ofSamples?_of_ne_nil capacity none]
  rw [start, push_rtake positive, ofSamples?_of_ne_nil _ (by simp)]

end Window

def ExecutionRecord.concerns (record : ExecutionRecord)
    (signature : Signature) (store : String) : Bool :=
  record.signature == signature && record.store == store

/-- The samples that records contribute to one profile, in order. -/
def History.samplesOf (signature : Signature) (store : String)
    (records : List ExecutionRecord) : List Sample :=
  (records.filter (·.concerns signature store)).map (·.sample)

theorem ExecutionRecord.concerns_iff {record : ExecutionRecord}
    {signature : Signature} {store : String} :
    record.concerns signature store = true ↔
      record.signature = signature ∧ record.store = store := by
  simp [ExecutionRecord.concerns]

theorem History.samplesOf_ne_nil_iff {signature : Signature} {store : String}
    {records : List ExecutionRecord} :
    History.samplesOf signature store records ≠ [] ↔
      ∃ record ∈ records,
        record.signature = signature ∧ record.store = store := by
  simp [History.samplesOf, ExecutionRecord.concerns_iff]

theorem History.exists_of_mem_samplesOf {signature : Signature}
    {store : String} {records : List ExecutionRecord} {sample : Sample}
    (member : sample ∈ History.samplesOf signature store records) :
    ∃ record ∈ records, record.concerns signature store = true ∧
      record.sample = sample := by
  obtain ⟨record, kept, isSample⟩ := List.mem_map.mp member
  obtain ⟨recordMember, concerns⟩ := List.mem_filter.mp kept
  exact ⟨record, recordMember, concerns, isSample⟩

theorem History.samplesOf_append (signature : Signature) (store : String)
    (records more : List ExecutionRecord) :
    History.samplesOf signature store (records ++ more) =
      History.samplesOf signature store records ++
        History.samplesOf signature store more := by
  simp [History.samplesOf]

namespace Model

theorem profile?_setProfile (model : Model) (signature other : Signature)
    (store target : String) (profile : Profile) :
    (model.setProfile signature store profile).profile? other target =
      if other = signature ∧ target = store then some profile
      else model.profile? other target := by
  have sameText : other.text = signature.text ↔ other = signature := by
    cases other
    cases signature
    simp
  simp only [profile?, storesOf, setProfile, Keyed.get?_insert, sameText]
  by_cases same : other = signature
  · subst other
    simp [Keyed.get?_insert]
  · simp [same]

theorem profile?_observe (model : Model) (signature other : Signature)
    (store target : String) (sample : Sample) :
    (model.observe signature store sample).profile? other target =
      if other = signature ∧ target = store then
        some (((model.profile? signature store).getD
          (.empty store model.capacity sample.timestamp)).observe
            sample model.saturation)
      else model.profile? other target :=
  profile?_setProfile model signature other store target _

@[simp] theorem capacity_observe (model : Model) (signature : Signature)
    (store : String) (sample : Sample) :
    (model.observe signature store sample).capacity = model.capacity := rfl

/-- A record adds a sample to the window of its pair and changes no other. -/
theorem observe_cases (model : Model) (record : ExecutionRecord)
    (signature : Signature) (store : String) :
    let observed := model.observe record.signature record.store record.sample
    (History.samplesOf signature store [record] = [record.sample] ∧
      ∃ profile, observed.profile? signature store = some profile ∧
        profile.window = (((model.profile? signature store).getD
          (.empty store model.capacity record.sample.timestamp)).window).push
            record.sample) ∨
    (History.samplesOf signature store [record] = [] ∧
      observed.profile? signature store = model.profile? signature store) := by
  intro observed
  have profiles := profile?_observe model record.signature signature
    record.store store record.sample
  cases concerned : record.concerns signature store with
  | true =>
      obtain ⟨rfl, rfl⟩ := ExecutionRecord.concerns_iff.mp concerned
      rw [if_pos ⟨rfl, rfl⟩] at profiles
      left
      exact ⟨by simp [History.samplesOf, concerned], _, profiles, rfl⟩
  | false =>
      rw [if_neg] at profiles
      · exact .inr ⟨by simp [History.samplesOf, concerned], profiles⟩
      · rintro ⟨rfl, rfl⟩
        simp [ExecutionRecord.concerns] at concerned

/-- Every profile holds the last samples of its pair, and there is a profile
for exactly the pairs that occur. -/
def Remembers (model : Model) (records : List ExecutionRecord) : Prop :=
  ∀ signature store,
    (model.profile? signature store).map (·.window) =
      Window.ofSamples? model.capacity
        (History.samplesOf signature store records)

theorem remembers_nil {model : Model} (none : model.profiles = []) :
    model.Remembers [] := by
  intro signature store
  simp [profile?, storesOf, none, History.samplesOf]

theorem Remembers.observe {model : Model} {records : List ExecutionRecord}
    (remembers : model.Remembers records) (record : ExecutionRecord) :
    (model.observe record.signature record.store record.sample).Remembers
      (records ++ [record]) := by
  intro signature store
  have known := remembers signature store
  rw [capacity_observe, History.samplesOf_append]
  rcases observe_cases model record signature store with
    ⟨contributes, profile, observed, pushed⟩ | ⟨contributes, untouched⟩
  · have window : ((model.profile? signature store).getD
          (.empty store model.capacity record.sample.timestamp)).window =
        (((model.profile? signature store).map (·.window)).getD
          (.empty model.capacity)) := by
      cases model.profile? signature store <;> rfl
    rw [observed, Option.map_some, pushed, window, known,
      Window.push_ofSamples?, contributes]
  · rw [untouched, known, contributes, List.append_nil]

theorem Remembers.observeAll {model : Model}
    {records : List ExecutionRecord} (remembers : model.Remembers records)
    (more : List ExecutionRecord) :
    (History.observeAll model more).Remembers (records ++ more) := by
  induction more generalizing model records with
  | nil => simpa [History.observeAll] using remembers
  | cons record more induction =>
      have extended := induction (remembers.observe record)
      simpa [History.observeAll] using extended

end Model

namespace History

@[simp] theorem capacity_observeAll (model : Model)
    (records : List ExecutionRecord) :
    (observeAll model records).capacity = model.capacity := by
  induction records generalizing model with
  | nil => rfl
  | cons record records induction => exact induction _

@[simp] theorem saturation_observeAll (model : Model)
    (records : List ExecutionRecord) :
    (observeAll model records).saturation = model.saturation := by
  induction records generalizing model with
  | nil => rfl
  | cons record records induction => exact induction _

theorem observeAll_append (model : Model)
    (records more : List ExecutionRecord) :
    observeAll model (records ++ more) =
      observeAll (observeAll model records) more := by
  simp [observeAll, List.foldl_append]

end History

end Polystore
