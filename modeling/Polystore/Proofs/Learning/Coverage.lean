import Polystore.Proofs.Learning.Chronology

/-!
# Coverage of records by profiles

Profiles cover a record when the last sample of its pair is not older than
it.  Profiles stem from records when each of their samples has the time of a
record of its pair.  Together the two tell which records are news: covered
ones are not, and those later than all that the profiles stem from are.
-/

namespace Polystore

namespace ProfileDocument

/-- The last sample of each record's pair is not older than the record. -/
def Covers (document : ProfileDocument)
    (records : List ExecutionRecord) : Prop :=
  ∀ record ∈ records, ∃ profile,
    document.profile? record.signature record.store = some profile ∧
      ∃ sample, profile.window.samples.getLast? = some sample ∧
        sample.timestamp.lt record.timestamp = false

/-- Each sample has the time of one of the records of its pair. -/
def StemsFrom (document : ProfileDocument)
    (records : List ExecutionRecord) : Prop :=
  ∀ signature store profile,
    document.profile? signature store = some profile →
      ∀ sample ∈ profile.window.samples, ∃ record ∈ records,
        record.signature = signature ∧ record.store = store ∧
          record.timestamp = sample.timestamp

theorem Covers.subset {document : ProfileDocument}
    {records fewer : List ExecutionRecord} (covers : document.Covers records)
    (subset : fewer ⊆ records) : document.Covers fewer :=
  fun record member => covers record (subset member)

theorem StemsFrom.subset {document : ProfileDocument}
    {records more : List ExecutionRecord}
    (stems : document.StemsFrom records) (subset : records ⊆ more) :
    document.StemsFrom more := by
  intro signature store profile found sample member
  obtain ⟨record, recordMember, source⟩ :=
    stems signature store profile found sample member
  exact ⟨record, subset recordMember, source⟩

end ProfileDocument

/-- The second record is the later one when both have the same pair. -/
def ExecutionRecord.Precedes (earlier later : ExecutionRecord) : Prop :=
  earlier.signature = later.signature → earlier.store = later.store →
    earlier.timestamp.lt later.timestamp = true

instance (earlier later : ExecutionRecord) :
    Decidable (earlier.Precedes later) :=
  inferInstanceAs (Decidable (_ → _ → _))

/-- The second record is not the earlier one when both have the same pair. -/
def ExecutionRecord.InOrder (former latter : ExecutionRecord) : Prop :=
  former.signature = latter.signature → former.store = latter.store →
    latter.timestamp.lt former.timestamp = false

instance (former latter : ExecutionRecord) :
    Decidable (former.InOrder latter) :=
  inferInstanceAs (Decidable (_ → _ → _))

theorem ExecutionRecord.Precedes.inOrder {earlier later : ExecutionRecord}
    (precedes : earlier.Precedes later) : earlier.InOrder later :=
  fun sameSignature sameStore =>
    Instant.lt_asymm (precedes sameSignature sameStore)

namespace Model

variable {model : Model} {document : ProfileDocument}
  {records : List ExecutionRecord}

theorem samples_adopt (model : Model) (store : String) (profile : Profile) :
    (model.adopt store profile).window.samples =
      profile.window.samples.rtake (max model.capacity 1) := rfl

theorem covers_restore (model : Model) (sorted : document.Sorted)
    (covers : document.Covers records) :
    ProfileDocument.Covers (model.restore document).snapshot records := by
  intro record member
  obtain ⟨profile, found, sample, isLast, notOlder⟩ := covers record member
  refine ⟨model.adopt record.store profile, ?_, sample, ?_, notOlder⟩
  · have restored := profile?_restore model sorted record.signature record.store
    rw [found] at restored
    exact restored
  · rw [samples_adopt, List.getLast?_rtake (by omega), isLast]

theorem stems_restore (model : Model) (sorted : document.Sorted)
    (stems : document.StemsFrom records) :
    ProfileDocument.StemsFrom (model.restore document).snapshot records := by
  intro signature store profile found sample member
  have restored := profile?_restore model sorted signature store
  obtain ⟨original, originalFound, isAdopted⟩ :=
    Option.map_eq_some_iff.mp (restored.symm.trans found)
  subst isAdopted
  rw [samples_adopt] at member
  exact stems signature store original originalFound sample
    (List.mem_of_mem_rtake member)

theorem samples_observe (profile : Profile) (sample : Sample)
    (saturation : Nat) :
    ∃ kept, kept ⊆ profile.window.samples ∧
      (profile.observe sample saturation).window.samples =
        kept ++ [sample] := by
  by_cases fullWindow : profile.window.capacity ≤ profile.window.size
  · refine ⟨profile.window.samples.tail,
      fun _ member => List.mem_of_mem_tail member, ?_⟩
    simp [Profile.observe, Profile.recompute, Window.push, fullWindow]
  · refine ⟨profile.window.samples, List.Subset.refl _, ?_⟩
    simp [Profile.observe, Profile.recompute, Window.push, fullWindow]

theorem covers_observe
    (covers : ProfileDocument.Covers model.snapshot records)
    (record : ExecutionRecord)
    (inOrder : ∀ former ∈ records, former.InOrder record) :
    ProfileDocument.Covers
      (model.observe record.signature record.store record.sample).snapshot
      (records ++ [record]) := by
  have atPair := profile?_observe model record.signature record.signature
    record.store record.store record.sample
  rw [if_pos ⟨rfl, rfl⟩] at atPair
  intro covered member
  by_cases same : covered.signature = record.signature ∧
      covered.store = record.store
  · have notLater : record.sample.timestamp.lt covered.timestamp = false := by
      rcases List.mem_append.mp member with old | new
      · exact inOrder covered old same.1 same.2
      · rw [List.mem_singleton.mp new]
        exact Instant.lt_self record.timestamp
    generalize (model.profile? record.signature record.store).getD
      (.empty record.store model.capacity record.sample.timestamp) = known
      at atPair
    obtain ⟨kept, _, samples⟩ :=
      samples_observe known record.sample model.saturation
    refine ⟨known.observe record.sample model.saturation, ?_, record.sample,
      ?_, notLater⟩
    · rw [same.1, same.2]
      exact atPair
    · rw [samples]
      simp
  · have elsewhere := profile?_observe model record.signature
      covered.signature record.store covered.store record.sample
    rw [if_neg same] at elsewhere
    have old : covered ∈ records := by
      rcases List.mem_append.mp member with old | new
      · exact old
      · rw [List.mem_singleton.mp new] at same
        exact absurd ⟨rfl, rfl⟩ same
    obtain ⟨profile, found, isCovered⟩ := covers covered old
    exact ⟨profile, elsewhere.trans found, isCovered⟩

theorem stems_observe
    (stems : ProfileDocument.StemsFrom model.snapshot records)
    {record : ExecutionRecord} (member : record ∈ records) :
    ProfileDocument.StemsFrom
      (model.observe record.signature record.store record.sample).snapshot
      records := by
  intro signature store profile found sample sampleMember
  have observed := profile?_observe model record.signature signature
    record.store store record.sample
  by_cases same : signature = record.signature ∧ store = record.store
  · rw [if_pos same] at observed
    cases Option.some.inj (observed.symm.trans found)
    obtain ⟨kept, fromBefore, samples⟩ := samples_observe
      ((model.profile? record.signature record.store).getD
        (.empty record.store model.capacity record.sample.timestamp))
      record.sample model.saturation
    rw [samples] at sampleMember
    rcases List.mem_append.mp sampleMember with old | new
    · cases before : model.profile? record.signature record.store with
      | none =>
          rw [before] at fromBefore
          cases fromBefore old
      | some known =>
          rw [before] at fromBefore
          rw [same.1, same.2]
          exact stems _ _ known before sample (fromBefore old)
    · rw [List.mem_singleton.mp new]
      exact ⟨record, member, same.1.symm, same.2.symm, rfl⟩
  · rw [if_neg same] at observed
    exact stems signature store profile (observed.symm.trans found) sample
      sampleMember

theorem covers_observeAll
    (covers : ProfileDocument.Covers model.snapshot records)
    {more : List ExecutionRecord}
    (ordered : (records ++ more).Pairwise ExecutionRecord.InOrder) :
    ProfileDocument.Covers (History.observeAll model more).snapshot
      (records ++ more) := by
  induction more generalizing model records with
  | nil => simpa [History.observeAll] using covers
  | cons record more induction =>
      have regrouped : records ++ record :: more =
          (records ++ [record]) ++ more := by simp
      have inOrder : ∀ former ∈ records, former.InOrder record :=
        fun former member => (List.pairwise_append.mp ordered).2.2
          former member record List.mem_cons_self
      rw [regrouped] at ordered ⊢
      exact induction (covers_observe covers record inOrder) ordered

theorem stems_observeAll
    (stems : ProfileDocument.StemsFrom model.snapshot records)
    {more : List ExecutionRecord} (subset : more ⊆ records) :
    ProfileDocument.StemsFrom (History.observeAll model more).snapshot
      records := by
  induction more generalizing model with
  | nil => exact stems
  | cons record more induction =>
      exact induction (stems_observe stems (subset List.mem_cons_self))
        fun _ member => subset (List.mem_cons_of_mem _ member)

theorem not_isNews_of_covers
    (covers : ProfileDocument.Covers model.snapshot records)
    {record : ExecutionRecord} (member : record ∈ records) :
    History.isNews model record = false := by
  obtain ⟨profile, found, sample, isLast, notOlder⟩ := covers record member
  exact History.isNews_eq_false_iff.mpr
    ⟨profile, found, sample, List.mem_of_getLast? isLast, notOlder⟩

/-- A record that is later than everything the profiles stem from is news. -/
theorem isNews_of_stems
    (stems : ProfileDocument.StemsFrom model.snapshot records)
    {record : ExecutionRecord}
    (later : ∀ earlier ∈ records, earlier.Precedes record) :
    History.isNews model record = true := by
  rw [← Bool.not_eq_false, History.isNews_eq_false_iff]
  rintro ⟨profile, found, sample, member, notOlder⟩
  obtain ⟨earlier, earlierMember, sameSignature, sameStore, sameTime⟩ :=
    stems _ _ profile found sample member
  have before := later earlier earlierMember sameSignature sameStore
  rw [sameTime, notOlder] at before
  cases before

end Model

end Polystore
