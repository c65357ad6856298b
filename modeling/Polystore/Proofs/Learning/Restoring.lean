import Mathlib.Data.Option.Basic
import Polystore.Proofs.Suffix
import Polystore.Proofs.Learning.Independence

/-!
# Restoring under other sizes

A snapshot can be restored into a model of other sizes, whatever that model
has learned itself.  The restored model has a profile just where the snapshot
has one, with the newest samples that fit and all figures derived from them
anew.  Under the same sizes nothing is lost.
-/

namespace Polystore

/-- The profile is another one under a smaller or greater capacity: it holds
the last samples that fit, and is as old. -/
structure Profile.CutFrom (capacity : Nat) (known cut : Profile) : Prop where
  samples :
    cut.window.samples = known.window.samples.rtake capacity
  size : cut.window.size = min known.window.size capacity
  updatedAt : cut.updatedAt = known.updatedAt

namespace Model

variable {model target : Model}

theorem cutFrom_adopt (positive : 0 < target.capacity) (store : String)
    (profile : Profile) :
    profile.CutFrom target.capacity (target.adopt store profile) := by
  have size : max target.capacity 1 = target.capacity :=
    Nat.max_eq_left positive
  have samples : (target.adopt store profile).window.samples =
      profile.window.samples.rtake target.capacity := by
    show profile.window.samples.drop
      (profile.window.samples.length - max target.capacity 1) = _
    rw [size]
    rfl
  exact {
    samples
    size := by
      rw [Window.size, samples, List.length_rtake, Nat.min_comm]
      rfl
    updatedAt := rfl }

theorem ReadsLike.refl (model : Model) : model.ReadsLike model :=
  ⟨fun _ _ => rfl, fun _ _ => rfl, fun _ => rfl, fun _ => rfl, fun _ => rfl,
    fun _ => rfl, rfl⟩

/-- What a model has learned before does not matter to what is restored. -/
theorem restore_eq (target : Model) (document : ProfileDocument) :
    target.restore document =
      (Model.empty target.capacity target.saturation).restore document := rfl

namespace Settled

theorem restored_profiles (settled : model.Settled)
    (positive : 0 < target.capacity) (signature : Signature)
    (store : String) :
    Option.Rel (Profile.CutFrom target.capacity)
      (model.profile? signature store)
      ((target.restore model.snapshot).profile? signature store) := by
  rw [profile?_restore target settled.sorted, snapshot_profile?]
  cases model.profile? signature store with
  | none => exact .none
  | some profile => exact .some (cutFrom_adopt positive store profile)

theorem restore_sameSizes (settled : model.Settled)
    (same : target.SameSizes model) :
    target.restore model.snapshot = model := by
  rw [restore_eq, same.capacity, same.saturation]
  exact settled.restore_snapshot

end Settled

/-- Whatever a model has gone through, its snapshot can be restored into any
model with room for at least one sample.  Nothing is left of what that model
had learned.  The restored model has profiles for the same signatures and
stores, each with the last samples of the original that fit, in their order,
and with the original's time; its index lists them and their figures are those
of the samples that were kept.  Under the sizes of the original the two models
tell the same, and the same is saved of them. -/
theorem restore_snapshot_resized (capacity saturation : Nat)
    (changes : List Change) (target : Model)
    (positive : 0 < target.capacity) :
    let model := (Model.empty capacity saturation).changeAll changes
    let restored := target.restore model.snapshot
    restored =
        (Model.empty target.capacity target.saturation).restore
          model.snapshot ∧
      (∀ signature store,
        Option.Rel (Profile.CutFrom target.capacity)
          (model.profile? signature store)
          (restored.profile? signature store)) ∧
      restored.Consistent target.capacity target.saturation ∧
      (target.capacity = capacity → target.saturation = saturation →
        restored.ReadsLike model) := by
  intro model restored
  have settled : model.Settled :=
    (settled_empty capacity saturation).changeAll changes
  refine ⟨restore_eq target model.snapshot,
    settled.restored_profiles positive, ?_, ?_⟩
  · exact consistent_changeAll target.capacity target.saturation positive
      [.restore model.snapshot]
  · intro sameCapacity sameSaturation
    have sizes := sameSizes_changeAll (.empty capacity saturation) changes
    have same : target.SameSizes model :=
      ⟨sameCapacity.trans sizes.capacity.symm,
        sameSaturation.trans sizes.saturation.symm⟩
    have unchanged : restored = model := settled.restore_sameSizes same
    rw [unchanged]
    exact .refl model

/-- One target has less room and has learned about another store; the other
target has the sizes of the original. -/
theorem restore_snapshot_resized_smaller :
    let sample (seconds : Int) : Sample :=
      ⟨8.0, 2.0, 5.0, 64.0, true, ⟨seconds, 0⟩⟩
    let model := (Model.empty 3 50).changeAll
      [.observe ⟨"query"⟩ "right" (sample 30),
        .observe ⟨"query"⟩ "right" (sample 20),
        .observe ⟨"query"⟩ "right" (sample 10)]
    let smaller := (Model.empty 2 10).changeAll
      [.observe ⟨"query"⟩ "left" (sample 40)]
    let alike := (Model.empty 3 50).changeAll
      [.observe ⟨"other"⟩ "right" (sample 40)]
    let restored := smaller.restore model.snapshot
    (∀ signature store, Option.Rel (Profile.CutFrom 2)
        (model.profile? signature store)
        (restored.profile? signature store)) ∧
      restored.Consistent 2 10 ∧
      restored.profile? ⟨"query"⟩ "left" = none ∧
      (restored.profile? ⟨"query"⟩ "right").map
          (fun profile => (profile.window.samples, profile.updatedAt)) =
        some ([sample 20, sample 10], ⟨10, 0⟩) ∧
      (alike.restore model.snapshot).ReadsLike model := by
  intro sample model smaller alike restored
  obtain ⟨-, cut, consistent, -⟩ := restore_snapshot_resized 3 50 _ smaller
    (by decide +kernel)
  obtain ⟨-, -, -, readsLike⟩ := restore_snapshot_resized 3 50 _ alike
    (by decide +kernel)
  refine ⟨cut, consistent, ?_, ?_, readsLike rfl rfl⟩
  · decide +kernel
  · decide +kernel

end Model

end Polystore
