import Polystore.Proofs.Learning.Snapshot

/-!
# Consistency of a model

A model keeps every profile twice over: the stores of a signature are listed
in an index beside the profiles, and a profile keeps figures that its window
already determines.  A saved document may contradict itself in all of this.
Whatever a model observes, forgets or restores, the index lists what there is
a profile for, the figures are those of the window, and whoever asks the model
about a signature hears of the profiles that would be saved for it.
-/

namespace Polystore

namespace Model

inductive Change where
  | observe (signature : Signature) (store : String) (sample : Sample)
  | clear
  | restore (document : ProfileDocument)

def change (model : Model) : Change → Model
  | .observe signature store sample => model.observe signature store sample
  | .clear => model.clear
  | .restore document => model.restore document

def changeAll (model : Model) (changes : List Change) : Model :=
  changes.foldl change model

end Model

/-- The window is no longer than the capacity, and all figures are those of
the samples in it. -/
structure Profile.Consistent (capacity saturation : Nat) (store : String)
    (profile : Profile) : Prop where
  store_eq : profile.store = store
  capacity_eq : profile.window.capacity = capacity
  size_le : profile.window.size ≤ capacity
  summary_eq : profile.summary = .ofSamples profile.window.samples
  score_eq : profile.score = (Summary.ofSamples profile.window.samples).score
  confidence_eq :
    profile.confidence = Polystore.confidence profile.window.size saturation

/-- Everything that the model tells about a signature is told of the given
profiles. -/
structure Model.Tells (model : Model) (signature : Signature)
    (known : Keyed Profile) : Prop where
  ordered : Keyed.Ordered known
  profile? : ∀ store, model.profile? signature store = known.get? store
  profilesFor : model.profilesFor signature = known.values
  scores : model.scores signature = known.mapValues Profile.score
  sampleCount : model.sampleCount signature =
    known.foldl (fun total entry => total + entry.2.samples) 0
  predict?_eq_none : model.predict? signature = none ↔ known = []
  predicted : ∀ prediction, model.predict? signature = some prediction →
    ∃ store best, (store, best) ∈ known ∧
      Model.best? known.values = some best ∧
      prediction =
        { signature, store
          confidence := best.confidence
          expectedTime := best.summary.executionTime.mean
          scores := known.mapValues Profile.score
          samples := best.samples }

/-- The index, the profiles and the figures in them fit together. -/
structure Model.Consistent (capacity saturation : Nat) (model : Model) :
    Prop where
  listed : ∀ signature store, store ∈ (model.listed signature).keys ↔
    ∃ profile, model.profile? signature store = some profile
  profiles : ∀ signature store profile,
    model.profile? signature store = some profile →
      profile.Consistent capacity saturation store
  tells : ∀ signature,
    model.Tells signature ((model.snapshot.get? signature.text).getD [])

namespace Model

variable {model : Model}

theorem Settled.change (settled : model.Settled) (change : Change) :
    (model.change change).Settled := by
  cases change with
  | observe signature store sample =>
      exact settled.observe signature store sample
  | clear => exact settled_clear model
  | restore document => exact settled_restore model document

theorem Settled.changeAll (settled : model.Settled) (changes : List Change) :
    (model.changeAll changes).Settled := by
  induction changes generalizing model with
  | nil => exact settled
  | cons change changes induction => exact induction (settled.change change)

theorem sameSizes_change (model : Model) (change : Change) :
    (model.change change).SameSizes model := by
  cases change with
  | observe => exact ⟨rfl, rfl⟩
  | clear => exact ⟨rfl, rfl⟩
  | restore document => exact sameSizes_restore model document

theorem sameSizes_changeAll (model : Model) (changes : List Change) :
    (model.changeAll changes).SameSizes model := by
  induction changes generalizing model with
  | nil => exact ⟨rfl, rfl⟩
  | cons change changes induction =>
      exact (induction _).trans (model.sameSizes_change change)

end Model

theorem Profile.Settled.consistent {capacity saturation : Nat}
    {store : String} {profile : Profile} (positive : 0 < capacity)
    (settled : profile.Settled capacity saturation store) :
    profile.Consistent capacity saturation store := by
  have size : max capacity 1 = capacity := Nat.max_eq_left positive
  have recomputed := settled.recomputed
  exact {
    store_eq := settled.store_eq
    capacity_eq := settled.capacity_eq.trans size
    size_le := size ▸ settled.size_le
    summary_eq := (congrArg Profile.summary recomputed).symm
    score_eq := (congrArg Profile.score recomputed).symm
    confidence_eq := (congrArg Profile.confidence recomputed).symm }

namespace Model

theorem mem_of_best? {profiles : List Profile} {best : Profile}
    (isBest : best? profiles = some best) : best ∈ profiles := by
  cases profiles with
  | nil => cases isBest
  | cons first rest =>
      cases isBest
      refine List.foldlRecOn rest _ List.mem_cons_self ?_
      intro best known next member
      split
      · exact known
      · exact List.mem_cons_of_mem _ member

namespace Settled

variable {model : Model}

theorem mem_keys_listed_iff (settled : model.Settled) (signature : Signature)
    (store : String) :
    store ∈ (model.listed signature).keys ↔
      ∃ profile, model.profile? signature store = some profile := by
  have distinct := (settled.ordered_storesOf signature).nodup_keys
  rw [settled.listed_eq]
  simp only [Keyed.keys, Keyed.mapValues, List.map_map, List.mem_map,
    Function.comp_apply]
  constructor
  · rintro ⟨entry, member, rfl⟩
    exact ⟨entry.2, Keyed.get?_of_mem distinct member⟩
  · rintro ⟨profile, found⟩
    exact ⟨(store, profile), Keyed.mem_of_get?_eq_some found, rfl⟩

theorem profilesFor_eq (settled : model.Settled) (signature : Signature) :
    model.profilesFor signature = (model.storesOf signature).values := by
  have sameKeys : (model.listed signature).keys =
      (model.storesOf signature).keys := by
    rw [settled.listed_eq]
    simp [Keyed.keys, Keyed.mapValues]
  rw [profilesFor, sameKeys]
  exact Keyed.filterMap_get?_keys
    (settled.ordered_storesOf signature).nodup_keys

theorem profile_of_mem (settled : model.Settled) {signature : Signature}
    {store : String} {profile : Profile}
    (member : (store, profile) ∈ model.storesOf signature) :
    profile.Settled model.capacity model.saturation store :=
  settled.profile (Keyed.get?_of_mem
    (settled.ordered_storesOf signature).nodup_keys member)

theorem scoresOf_eq (settled : model.Settled) (signature : Signature) :
    Keyed.ofList ((model.profilesFor signature).map
        fun profile => (profile.store, profile.score)) =
      (model.storesOf signature).mapValues Profile.score := by
  have named : ∀ entry ∈ model.storesOf signature,
      (entry.2.store, entry.2.score) = (entry.1, entry.2.score) := by
    intro entry member
    rw [(settled.profile_of_mem member).store_eq]
  have sameEntries : (model.profilesFor signature).map
        (fun profile => (profile.store, profile.score)) =
      (model.storesOf signature).mapValues Profile.score := by
    rw [settled.profilesFor_eq, Keyed.values, List.map_map]
    exact List.map_congr_left named
  rw [sameEntries]
  exact Keyed.ofList_of_ordered
    ((settled.ordered_storesOf signature).mapValues _)

theorem predict?_eq (settled : model.Settled) (signature : Signature) :
    model.predict? signature =
      (best? (model.storesOf signature).values).map fun best =>
        { signature
          store := best.store
          confidence := best.confidence
          expectedTime := best.summary.executionTime.mean
          scores := (model.storesOf signature).mapValues Profile.score
          samples := best.samples } := by
  rw [predict?, settled.scoresOf_eq, settled.profilesFor_eq]

theorem tells (settled : model.Settled) (signature : Signature) :
    model.Tells signature (model.storesOf signature) where
  ordered := settled.ordered_storesOf signature
  profile? := fun _ => rfl
  profilesFor := settled.profilesFor_eq signature
  scores := settled.scoresOf_eq signature
  sampleCount := by
    rw [Model.sampleCount, settled.profilesFor_eq, Keyed.values,
      List.foldl_map]
  predict?_eq_none := by
    rw [settled.predict?_eq]
    cases model.storesOf signature with
    | nil => simp [Keyed.values, best?]
    | cons first rest => simp [Keyed.values, best?]
  predicted := by
    intro prediction isPredicted
    rw [settled.predict?_eq] at isPredicted
    obtain ⟨best, isBest, rfl⟩ := Option.map_eq_some_iff.mp isPredicted
    obtain ⟨⟨store, known⟩, member, isKnown⟩ :=
      List.mem_map.mp (mem_of_best? isBest)
    subst isKnown
    refine ⟨store, known, member, isBest, ?_⟩
    rw [(settled.profile_of_mem member).store_eq]

theorem consistent (settled : model.Settled) (positive : 0 < model.capacity) :
    model.Consistent model.capacity model.saturation where
  listed := settled.mem_keys_listed_iff
  profiles := fun _ _ _ found => (settled.profile found).consistent positive
  tells := settled.tells

end Settled

/-- Whatever a model with room for at least one sample goes through, its index
lists exactly the pairs that have a profile, every profile is what its window
makes of it, and all that is told about a signature is told of the profiles
that the snapshot has for it.  Restored documents need not fit together: the
windows in them may be longer than their own capacity, which may be zero, and
names and figures may be wrong. -/
theorem consistent_changeAll (capacity saturation : Nat)
    (positive : 0 < capacity) (changes : List Change) :
    ((Model.empty capacity saturation).changeAll changes).Consistent capacity
      saturation := by
  have settled := (settled_empty capacity saturation).changeAll changes
  obtain ⟨sameCapacity, sameSaturation⟩ :=
    sameSizes_changeAll (.empty capacity saturation) changes
  have consistent := settled.consistent (by rw [sameCapacity]; exact positive)
  rwa [sameCapacity, sameSaturation] at consistent

/-- The restored profile has three samples for no room at all, the name of
another store, and figures of its own. -/
theorem consistent_changeAll_contradictory :
    let sample : Sample := ⟨8.0, 2.0, 5.0, 64.0, true, ⟨10, 0⟩⟩
    let contradictory : Profile :=
      ⟨"right", ⟨0, [sample, sample, sample]⟩, .zero, 7.0, 100.0, ⟨0, 0⟩⟩
    let model := (Model.empty 2 50).changeAll
      [.observe ⟨"query"⟩ "old" sample, .clear,
        .restore [("query", [("left", contradictory)])],
        .observe ⟨"query"⟩ "right" { sample with success := false }]
    model.Consistent 2 50 ∧
      (model.profilesFor ⟨"query"⟩).map
          (fun profile => (profile.store, profile.samples)) =
        [("left", 2), ("right", 1)] := by
  intro sample contradictory model
  refine ⟨consistent_changeAll 2 50 (by decide) _, ?_⟩
  decide +kernel

end Model

end Polystore
