import Polystore.Proofs.Learning.Snapshot

/-!
# Samples in time

Whether a record is news to a model is decided by the newest sample of its
pair.  Here the newest sample is related to the samples it is the newest of,
and to the records that these samples come from.
-/

namespace Polystore

namespace Instant

theorem lt_iff {left right : Instant} :
    left.lt right = true ↔
      left.seconds < right.seconds ∨
        left.seconds = right.seconds ∧
          left.nanoseconds < right.nanoseconds := by
  simp [lt]

theorem lt_eq_false_iff {left right : Instant} :
    left.lt right = false ↔ ¬left.lt right = true := by
  simp

theorem lt_self (instant : Instant) : instant.lt instant = false := by
  rw [lt_eq_false_iff, lt_iff]
  omega

theorem lt_asymm {left right : Instant} (before : left.lt right = true) :
    right.lt left = false := by
  rw [lt_eq_false_iff, lt_iff]
  rw [lt_iff] at before
  omega

theorem not_lt_trans {first second third : Instant}
    (firstSecond : first.lt second = false)
    (secondThird : second.lt third = false) : first.lt third = false := by
  rw [lt_eq_false_iff, lt_iff] at firstSecond secondThird ⊢
  omega

theorem latest_cases (left right : Instant) :
    latest left right = left ∨ latest left right = right := by
  unfold latest
  split
  · exact .inr rfl
  · exact .inl rfl

theorem not_latest_lt (left right : Instant) :
    (latest left right).lt left = false ∧
      (latest left right).lt right = false := by
  unfold latest
  split
  · rename_i before
    exact ⟨lt_asymm before, lt_self right⟩
  · rename_i notBefore
    exact ⟨lt_self left, by simpa using notBefore⟩

theorem foldl_latest_mem (first : Instant) (rest : List Instant) :
    rest.foldl latest first ∈ first :: rest := by
  induction rest generalizing first with
  | nil => simp
  | cons second rest induction =>
      have member := induction (latest first second)
      rw [List.foldl_cons]
      rcases List.mem_cons.mp member with isHead | later
      · rw [isHead]
        rcases latest_cases first second with isFirst | isSecond
        · simp [isFirst]
        · simp [isSecond]
      · exact List.mem_cons_of_mem _ (List.mem_cons_of_mem _ later)

theorem not_foldl_latest_lt (first : Instant) (rest : List Instant) :
    ∀ instant ∈ first :: rest,
      (rest.foldl latest first).lt instant = false := by
  induction rest generalizing first with
  | nil =>
      intro instant member
      rw [List.mem_singleton.mp member]
      exact lt_self first
  | cons second rest induction =>
      have bound := induction (latest first second)
      have atLatest := bound _ List.mem_cons_self
      obtain ⟨notFirst, notSecond⟩ := not_latest_lt first second
      intro instant member
      rw [List.foldl_cons]
      rcases List.mem_cons.mp member with isFirst | later
      · rw [isFirst]
        exact not_lt_trans atLatest notFirst
      · rcases List.mem_cons.mp later with isSecond | inRest
        · rw [isSecond]
          exact not_lt_trans atLatest notSecond
        · exact bound instant (List.mem_cons_of_mem _ inRest)

end Instant

theorem Profile.latestSampleAt?_eq_some {profile : Profile}
    {latest : Instant} (found : profile.latestSampleAt? = some latest) :
    (∃ sample ∈ profile.window.samples, sample.timestamp = latest) ∧
      ∀ sample ∈ profile.window.samples,
        latest.lt sample.timestamp = false := by
  unfold latestSampleAt? at found
  split at found
  · cases found
  · rename_i first rest times
    cases found
    have member := Instant.foldl_latest_mem first rest
    have bound := Instant.not_foldl_latest_lt first rest
    rw [← times] at member bound
    refine ⟨List.mem_map.mp member, ?_⟩
    intro sample sampleMember
    exact bound _ (List.mem_map_of_mem sampleMember)

theorem Profile.latestSampleAt?_eq_none_iff {profile : Profile} :
    profile.latestSampleAt? = none ↔ profile.window.samples = [] := by
  unfold latestSampleAt?
  cases profile.window.samples <;> simp

theorem History.isNews_eq_false_iff {model : Model}
    {record : ExecutionRecord} :
    History.isNews model record = false ↔
      ∃ profile,
        model.profile? record.signature record.store = some profile ∧
          ∃ sample ∈ profile.window.samples,
            sample.timestamp.lt record.timestamp = false := by
  unfold isNews Model.latestSampleAt?
  cases found : model.profile? record.signature record.store with
  | none => simp
  | some profile =>
      cases newest : profile.latestSampleAt? with
      | none =>
          have empty := Profile.latestSampleAt?_eq_none_iff.mp newest
          simp [newest, empty]
      | some latest =>
          obtain ⟨⟨sample, member, isLatest⟩, bound⟩ :=
            Profile.latestSampleAt?_eq_some newest
          simp only [Option.bind_some, newest, Option.some.injEq,
            exists_eq_left']
          constructor
          · intro notLater
            exact ⟨sample, member, isLatest ▸ notLater⟩
          · rintro ⟨other, otherMember, notLater⟩
            exact Instant.not_lt_trans (bound other otherMember) notLater

end Polystore
