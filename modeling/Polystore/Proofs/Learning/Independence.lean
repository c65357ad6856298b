import Polystore.Proofs.Learning.Consistency

/-!
# Independence of observations

An observation changes the profile of its own pair and leaves all others
alone, so the profile of a pair is made of the samples of that pair in their
order, whatever was observed in between.  The index and the recommendation
are functions of the profiles: observations that differ only in how the
samples of different pairs alternate leave the same model behind.
-/

namespace Polystore

/-- One sample of a signature on a store. -/
structure Observation where
  signature : Signature
  store : String
  sample : Sample

namespace Observation

def change (observation : Observation) : Model.Change :=
  .observe observation.signature observation.store observation.sample

def concerns (observation : Observation) (signature : Signature)
    (store : String) : Bool :=
  signature == observation.signature && store == observation.store

def samplesOf (signature : Signature) (store : String)
    (observations : List Observation) : List Sample :=
  (observations.filter (·.concerns signature store)).map (·.sample)

variable {observation : Observation} {signature : Signature} {store : String}

theorem concerns_iff :
    observation.concerns signature store = true ↔
      signature = observation.signature ∧ store = observation.store := by
  simp [concerns]

theorem samplesOf_cons_of_concerns
    (concerns : observation.concerns signature store = true)
    (rest : List Observation) :
    samplesOf signature store (observation :: rest) =
      observation.sample :: samplesOf signature store rest := by
  simp [samplesOf, concerns]

theorem samplesOf_cons_of_not_concerns
    (unconcerned : ¬observation.concerns signature store = true)
    (rest : List Observation) :
    samplesOf signature store (observation :: rest) =
      samplesOf signature store rest := by
  simp [samplesOf, unconcerned]

end Observation

namespace Model

/-- The model after observations one after the other. -/
def observeEach (model : Model) (observations : List Observation) : Model :=
  model.changeAll (observations.map Observation.change)

/-- The profile of a store after one more sample, whether or not there was
one before. -/
def extend (model : Model) (store : String) (known : Option Profile)
    (sample : Sample) : Option Profile :=
  some ((known.getD (.empty store model.capacity sample.timestamp)).observe
    sample model.saturation)

/-- Whatever can be read from the one model can be read from the other. -/
structure ReadsLike (left right : Model) : Prop where
  profile? : ∀ signature store,
    left.profile? signature store = right.profile? signature store
  latestSampleAt? : ∀ signature store,
    left.latestSampleAt? signature store =
      right.latestSampleAt? signature store
  profilesFor : ∀ signature,
    left.profilesFor signature = right.profilesFor signature
  scores : ∀ signature, left.scores signature = right.scores signature
  predict? : ∀ signature, left.predict? signature = right.predict? signature
  sampleCount : ∀ signature,
    left.sampleCount signature = right.sampleCount signature
  snapshot : left.snapshot = right.snapshot

variable {model : Model}

theorem observeEach_cons (model : Model) (observation : Observation)
    (rest : List Observation) :
    model.observeEach (observation :: rest) =
      (model.observe observation.signature observation.store
        observation.sample).observeEach rest := rfl

/-- The profile of a pair is made of the samples of that pair alone. -/
theorem profile?_observeEach (model : Model)
    (observations : List Observation) (signature : Signature)
    (store : String) :
    (model.observeEach observations).profile? signature store =
      (Observation.samplesOf signature store observations).foldl
        (model.extend store) (model.profile? signature store) := by
  induction observations generalizing model with
  | nil => rfl
  | cons observation rest induction =>
      rw [observeEach_cons, induction, profile?_observe]
      by_cases concerns : observation.concerns signature store = true
      · have same := Observation.concerns_iff.mp concerns
        rw [Observation.samplesOf_cons_of_concerns concerns, if_pos same,
          same.1, same.2]
        rfl
      · have different := mt Observation.concerns_iff.mpr concerns
        rw [Observation.samplesOf_cons_of_not_concerns concerns,
          if_neg different]
        rfl

theorem observeEach_congr (settled : model.Settled)
    {first second : List Observation}
    (same : ∀ signature store,
      Observation.samplesOf signature store first =
        Observation.samplesOf signature store second) :
    model.observeEach first = model.observeEach second := by
  apply (settled.changeAll _).ext (settled.changeAll _)
  · exact (sameSizes_changeAll model _).trans
      (sameSizes_changeAll model _).symm
  · intro signature store
    have afterFirst := profile?_observeEach model first signature store
    have afterSecond := profile?_observeEach model second signature store
    rw [same signature store, ← afterSecond] at afterFirst
    exact afterFirst

/-- A model that has gone through anything at all cannot tell two sequences of
observations apart that have the same samples in the same order for every
signature and store. -/
theorem readsLike_observeEach (capacity saturation : Nat)
    (changes : List Change) (first second : List Observation)
    (same : ∀ signature store,
      Observation.samplesOf signature store first =
        Observation.samplesOf signature store second) :
    let start := (Model.empty capacity saturation).changeAll changes
    (start.observeEach first).ReadsLike (start.observeEach second) := by
  intro start
  have settled : start.Settled :=
    (settled_empty capacity saturation).changeAll changes
  rw [observeEach_congr settled same]
  exact ⟨fun _ _ => rfl, fun _ _ => rfl, fun _ => rfl, fun _ => rfl,
    fun _ => rfl, fun _ => rfl, rfl⟩

/-- The sample of the other store comes before those of the first one or
between them.  The scores are the same, and more samples count. -/
theorem readsLike_observeEach_two_stores :
    let sample (memory : Float) : Sample :=
      ⟨8.0, 2.0, 5.0, memory, true, ⟨10, 0⟩⟩
    let small : Observation := ⟨⟨"query"⟩, "right", sample 16.0⟩
    let large : Observation := ⟨⟨"query"⟩, "right", sample 64.0⟩
    let other : Observation := ⟨⟨"query"⟩, "left", sample 32.0⟩
    let start := (Model.empty 2 50).changeAll
      [.observe ⟨"query"⟩ "right" (sample 128.0)]
    (start.observeEach [other, small, large]).ReadsLike
        (start.observeEach [small, other, large]) ∧
      ((start.observeEach [other, small, large]).predict? ⟨"query"⟩).map
          (fun prediction => (prediction.store, prediction.samples)) =
        some ("right", 2) := by
  intro sample small large other start
  constructor
  · refine readsLike_observeEach 2 50 _ _ _ ?_
    intro signature store
    by_cases isOther : other.concerns signature store = true
    · have notSmall : ¬small.concerns signature store = true := by
        intro isSmall
        have isLeft := (Observation.concerns_iff.mp isOther).2
        have isRight := (Observation.concerns_iff.mp isSmall).2
        exact absurd (isLeft.symm.trans isRight) (by decide)
      rw [Observation.samplesOf_cons_of_concerns isOther,
        Observation.samplesOf_cons_of_not_concerns notSmall,
        Observation.samplesOf_cons_of_not_concerns notSmall,
        Observation.samplesOf_cons_of_concerns isOther]
    · simp [Observation.samplesOf, List.filter_cons, isOther]
  · decide +kernel

end Model

end Polystore
