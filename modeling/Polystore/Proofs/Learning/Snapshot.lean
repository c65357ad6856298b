import Polystore.Proofs.Learning.Observation

/-!
# Snapshots of a model

A model whose profiles have been observed or restored under its own sizes is
its snapshot: the index lists the profiles in it, and restoring it under the
same sizes changes nothing.
-/

namespace Polystore

namespace ProfileDocument

def profile? (document : ProfileDocument) (signature : Signature)
    (store : String) : Option Profile :=
  ((document.get? signature.text).getD []).get? store

/-- Signatures ascend, and so do the stores of each signature. -/
structure Sorted (document : ProfileDocument) : Prop where
  signatures : Keyed.Ordered document
  stores : ∀ entry ∈ document, Keyed.Ordered entry.2

theorem sorted_nil : Sorted [] where
  signatures := Keyed.ordered_nil
  stores := by simp

/-- What is read as a map is in order, and each value in it is read from a
part of the document. -/
theorem ordered_of_keyed? {α : Type} {decode : Written → Option α}
    {tree : Written} {entries : Keyed α}
    (isRead : tree.keyed? decode = some entries) :
    Keyed.Ordered entries ∧
      ∀ entry ∈ entries, ∃ part, decode part = some entry.2 := by
  cases tree with
  | object fields =>
      obtain ⟨pairs, areRead, rfl⟩ := Option.map_eq_some_iff.mp isRead
      refine ⟨Keyed.ordered_ofList pairs, ?_⟩
      intro entry member
      have among : some entry ∈ fields.map (Written.keyedField? decode) := by
        rw [mapM_eq_some_iff.mp areRead]
        exact List.mem_map_of_mem (Keyed.mem_of_mem_ofList member)
      obtain ⟨field, -, isEntry⟩ := List.mem_map.mp among
      simp only [Written.keyedField?, bind, Option.bind_eq_some_iff] at isEntry
      obtain ⟨key, -, value, isValue, same⟩ := isEntry
      cases same
      exact ⟨field.2, isValue⟩
  | null | bool | integer | float | string | unreadable | array =>
      cases isRead

/-- Whatever can be read as saved profiles is in order. -/
theorem sorted_of_decode {tree : Written} {document : ProfileDocument}
    (decoded : decode tree = some document) : document.Sorted := by
  obtain ⟨signatures, parts⟩ := ordered_of_keyed? decoded
  refine ⟨signatures, ?_⟩
  intro entry member
  obtain ⟨part, isRead⟩ := parts entry member
  exact (ordered_of_keyed? isRead).1

/-- The stores of every signature. -/
def index (document : ProfileDocument) : StoreIndex :=
  document.mapValues fun stores => stores.mapValues fun _ => ()

end ProfileDocument

/-- The profile is as a model of the given sizes keeps it: its window has the
model's capacity, and all other figures are those of the window. -/
structure Profile.Settled (capacity saturation : Nat) (store : String)
    (profile : Profile) : Prop where
  store_eq : profile.store = store
  capacity_eq : profile.window.capacity = max capacity 1
  size_le : profile.window.size ≤ max capacity 1
  recomputed : profile.recompute saturation = profile

namespace Window

variable {α : Type}

theorem resize_eq_self {window : Window α} {capacity : Nat}
    (sameCapacity : window.capacity = max capacity 1)
    (fits : window.size ≤ max capacity 1) :
    window.resize capacity = window := by
  have nothing : window.size - max capacity 1 = 0 := by omega
  cases window
  simp_all [resize]

theorem size_resize_le (window : Window α) (capacity : Nat) :
    (window.resize capacity).size ≤ max capacity 1 := by
  simp only [resize, size, List.length_drop]
  omega

theorem size_push_le {window : Window α} (positive : 0 < window.capacity)
    (fits : window.size ≤ window.capacity) (sample : α) :
    (window.push sample).size ≤ window.capacity := by
  by_cases full : window.capacity ≤ window.size
  · rw [push, if_pos full]
    simp only [size, List.length_append, List.length_tail,
      List.length_singleton] at fits full ⊢
    omega
  · rw [push, if_neg full]
    simp only [size, List.length_append, List.length_singleton] at full ⊢
    omega

end Window

namespace Profile

theorem settled_empty_observe (capacity saturation : Nat) (store : String)
    (now : Instant) (sample : Sample) :
    ((Profile.empty store capacity now).observe sample saturation).Settled
      capacity saturation store where
  store_eq := rfl
  capacity_eq := rfl
  size_le := by
    have positive : 0 < (Window.empty capacity : Window Sample).capacity := by
      simp only [Window.empty]
      omega
    exact Window.size_push_le positive (Nat.zero_le _) sample
  recomputed := rfl

theorem Settled.observe {capacity saturation : Nat} {store : String}
    {profile : Profile} (settled : profile.Settled capacity saturation store)
    (sample : Sample) :
    (profile.observe sample saturation).Settled capacity saturation store where
  store_eq := settled.store_eq
  capacity_eq := settled.capacity_eq
  size_le := by
    have positive : 0 < profile.window.capacity := by
      rw [settled.capacity_eq]
      omega
    have fits := settled.size_le
    rw [← settled.capacity_eq] at fits ⊢
    exact Window.size_push_le positive fits sample
  recomputed := rfl

end Profile

namespace Model

variable {model : Model}

theorem settled_adopt (model : Model) (store : String) (profile : Profile) :
    (model.adopt store profile).Settled model.capacity model.saturation
      store where
  store_eq := rfl
  capacity_eq := rfl
  size_le := Window.size_resize_le _ _
  recomputed := rfl

theorem adopt_of_settled {store : String} {profile : Profile}
    (settled : profile.Settled model.capacity model.saturation store) :
    model.adopt store profile = profile := by
  have sameWindow : profile.window.resize model.capacity = profile.window :=
    Window.resize_eq_self settled.capacity_eq settled.size_le
  have sameStore := settled.store_eq
  subst sameStore
  rw [adopt, sameWindow]
  exact settled.recomputed

@[simp] theorem snapshot_profile? (signature : Signature) (store : String) :
    model.snapshot.profile? signature store = model.profile? signature store :=
  rfl

/-- The models make and restore profiles in the same sizes. -/
structure SameSizes (model other : Model) : Prop where
  capacity : model.capacity = other.capacity
  saturation : model.saturation = other.saturation

theorem SameSizes.trans {first second third : Model}
    (former : first.SameSizes second) (latter : second.SameSizes third) :
    first.SameSizes third where
  capacity := former.capacity.trans latter.capacity
  saturation := former.saturation.trans latter.saturation

theorem SameSizes.symm {other : Model} (same : model.SameSizes other) :
    other.SameSizes model where
  capacity := same.capacity.symm
  saturation := same.saturation.symm

/-- The index lists what there are profiles for, no signature stands there
without profiles, and all profiles are settled. -/
structure Settled (model : Model) : Prop where
  sorted : model.snapshot.Sorted
  indexed : model.index = model.snapshot.index
  full : ∀ entry ∈ model.profiles, entry.2 ≠ []
  profiles : ∀ entry ∈ model.profiles, ∀ item ∈ entry.2,
    item.2.Settled model.capacity model.saturation item.1

theorem settled_empty (capacity saturation : Nat) :
    (Model.empty capacity saturation).Settled where
  sorted := ProfileDocument.sorted_nil
  indexed := rfl
  full := by simp [empty]
  profiles := by simp [empty]

theorem settled_clear (model : Model) : model.clear.Settled :=
  settled_empty model.capacity model.saturation

theorem storesOf_mem {signature : Signature}
    (some : model.storesOf signature ≠ []) :
    (signature.text, model.storesOf signature) ∈ model.profiles := by
  unfold storesOf at some ⊢
  cases found : model.profiles.get? signature.text with
  | none => simp [found] at some
  | some stores => exact Keyed.mem_of_get?_eq_some found

namespace Settled

theorem ordered_storesOf (settled : model.Settled) (signature : Signature) :
    Keyed.Ordered (model.storesOf signature) := by
  by_cases none : model.storesOf signature = []
  · rw [none]
    exact Keyed.ordered_nil
  · exact settled.sorted.stores _ (storesOf_mem none)

theorem profile (settled : model.Settled) {signature : Signature}
    {store : String} {profile : Profile}
    (found : model.profile? signature store = some profile) :
    profile.Settled model.capacity model.saturation store := by
  have member : (store, profile) ∈ model.storesOf signature :=
    Keyed.mem_of_get?_eq_some found
  exact settled.profiles _ (storesOf_mem (List.ne_nil_of_mem member))
    _ member

/-- The index lists the stores of a signature that have a profile. -/
theorem listed_eq (settled : model.Settled) (signature : Signature) :
    model.listed signature =
      (model.storesOf signature).mapValues fun _ => () := by
  rw [listed, settled.indexed, ProfileDocument.index, Keyed.get?_mapValues,
    storesOf, snapshot]
  cases model.profiles.get? signature.text <;> rfl

theorem setProfile (settled : model.Settled) (signature : Signature)
    {store : String} {profile : Profile}
    (isSettled : profile.Settled model.capacity model.saturation store) :
    ((model.setProfile signature store profile).enlist signature
      store).Settled where
  sorted := {
    signatures := settled.sorted.signatures.insert _ _
    stores := by
      intro entry member
      rcases Keyed.mem_insert member with isNew | old
      · rw [isNew]
        exact (settled.ordered_storesOf signature).insert _ _
      · exact settled.sorted.stores entry old }
  indexed := by
    have listed := settled.listed_eq signature
    simp only [enlist, Model.setProfile, Model.listed, snapshot,
      ProfileDocument.index, Keyed.mapValues_insert] at listed ⊢
    rw [listed, settled.indexed]
    rfl
  full := by
    intro entry member
    rcases Keyed.mem_insert member with isNew | old
    · rw [isNew]
      exact Keyed.insert_ne_nil _ _ _
    · exact settled.full entry old
  profiles := by
    intro entry member item itemMember
    rcases Keyed.mem_insert member with isNew | old
    · subst entry
      rcases Keyed.mem_insert itemMember with isChanged | unchanged
      · subst item
        exact isSettled
      · have some := List.ne_nil_of_mem unchanged
        exact settled.profiles _ (storesOf_mem some) item unchanged
    · exact settled.profiles entry old item itemMember

theorem observe (settled : model.Settled) (signature : Signature)
    (store : String) (sample : Sample) :
    (model.observe signature store sample).Settled := by
  apply settled.setProfile
  cases found : model.profile? signature store with
  | none => exact Profile.settled_empty_observe _ _ _ _ _
  | some profile => exact (settled.profile found).observe sample

theorem observeAll (settled : model.Settled)
    (records : List ExecutionRecord) :
    (History.observeAll model records).Settled := by
  induction records generalizing model with
  | nil => exact settled
  | cons record records induction =>
      exact induction (settled.observe record.signature record.store
        record.sample)

theorem restoreOne (settled : model.Settled) (signature : Signature)
    (store : String) (profile : Profile) :
    (model.restoreOne signature store profile).Settled :=
  settled.setProfile signature (settled_adopt model store profile)

end Settled

theorem restoreStores_cons (model : Model) (signature : Signature)
    (store : String) (profile : Profile) (stores : Keyed Profile) :
    model.restoreStores signature ((store, profile) :: stores) =
      (model.restoreOne signature store profile).restoreStores signature
        stores := rfl

theorem restoreAll_cons (model : Model) (text : String)
    (stores : Keyed Profile) (document : ProfileDocument) :
    model.restoreAll ((text, stores) :: document) =
      (model.restoreStores ⟨text⟩ stores).restoreAll document := rfl

/-- What holds of the cleared model and survives each profile that is taken
over holds of the restored model. -/
theorem restore_induction {motive : Model → Prop} (model : Model)
    (document : ProfileDocument) (clear : motive model.clear)
    (restoreOne : ∀ known signature store profile, motive known →
      motive (Model.restoreOne known signature store profile)) :
    motive (model.restore document) := by
  have stores : ∀ (signature : Signature) (stores : Keyed Profile)
      (known : Model), motive known →
      motive (known.restoreStores signature stores) := by
    intro signature stores
    induction stores with
    | nil => exact fun _ holds => holds
    | cons item stores induction =>
        exact fun known holds =>
          induction _ (restoreOne known signature item.1 item.2 holds)
  have signatures : ∀ known, motive known →
      motive (Model.restoreAll known document) := by
    induction document with
    | nil => exact fun _ holds => holds
    | cons entry document induction =>
        exact fun known holds =>
          induction _ (stores ⟨entry.1⟩ entry.2 known holds)
  exact signatures model.clear clear

/-- Whatever was saved, the restored model is settled. -/
theorem settled_restore (model : Model) (document : ProfileDocument) :
    (model.restore document).Settled :=
  restore_induction model document (settled_clear model)
    fun _ signature store profile settled =>
      settled.restoreOne signature store profile

theorem sameSizes_restore (model : Model) (document : ProfileDocument) :
    (model.restore document).SameSizes model :=
  restore_induction (motive := fun known => known.SameSizes model) model
    document ⟨rfl, rfl⟩ fun _ _ _ _ same => ⟨same.capacity, same.saturation⟩

@[simp] theorem capacity_restore (model : Model)
    (document : ProfileDocument) :
    (model.restore document).capacity = model.capacity :=
  (sameSizes_restore model document).capacity

@[simp] theorem saturation_restore (model : Model)
    (document : ProfileDocument) :
    (model.restore document).saturation = model.saturation :=
  (sameSizes_restore model document).saturation

theorem profile?_restoreOne (model : Model) (signature other : Signature)
    (store target : String) (profile : Profile) :
    (model.restoreOne signature store profile).profile? other target =
      if other = signature ∧ target = store then
        some (model.adopt store profile)
      else model.profile? other target :=
  profile?_setProfile (model.enlist signature store) signature other store
    target _

theorem adopt_restoreStores (model : Model) (signature : Signature)
    (stores : Keyed Profile) :
    (model.restoreStores signature stores).adopt = model.adopt := by
  induction stores generalizing model with
  | nil => rfl
  | cons item stores induction =>
      rw [restoreStores_cons, induction]
      rfl

theorem profile?_restoreStores {stores : Keyed Profile}
    (ordered : Keyed.Ordered stores) (signature other : Signature)
    (target : String) (model : Model) :
    (model.restoreStores signature stores).profile? other target =
      if other = signature then
        ((stores.get? target).map (model.adopt target)).or
          (model.profile? other target)
      else model.profile? other target := by
  induction stores generalizing model with
  | nil => simp [restoreStores]
  | cons item stores induction =>
      obtain ⟨store, profile⟩ := item
      rw [restoreStores_cons, induction ordered.tail, profile?_restoreOne,
        Keyed.get?_cons]
      by_cases same : other = signature
      · by_cases isStore : target = store
        · have notAgain := Keyed.get?_eq_none_of_not_mem ordered.not_mem_tail
          simp [same, isStore, notAgain]
        · simp [same, isStore]
          rfl
      · simp [same]

theorem profile?_restore (model : Model) {document : ProfileDocument}
    (sorted : document.Sorted) (signature : Signature) (store : String) :
    (model.restore document).profile? signature store =
      (document.profile? signature store).map (model.adopt store) := by
  have taken : ∀ known : Model,
      (known.restoreAll document).profile? signature store =
        ((document.profile? signature store).map (known.adopt store)).or
          (known.profile? signature store) := by
    obtain ⟨signatures, stores⟩ := sorted
    induction document with
    | nil => exact fun _ => rfl
    | cons entry document induction =>
        intro known
        obtain ⟨text, first⟩ := entry
        have ordered := stores (text, first) List.mem_cons_self
        rw [restoreAll_cons, induction signatures.tail
            fun entry member => stores entry (List.mem_cons_of_mem _ member),
          profile?_restoreStores ordered, adopt_restoreStores,
          ProfileDocument.profile?, ProfileDocument.profile?, Keyed.get?_cons]
        by_cases same : signature = ⟨text⟩
        · have notAgain :=
            Keyed.get?_eq_none_of_not_mem signatures.not_mem_tail
          simp [same, notAgain]
        · have different : signature.text ≠ text := fun isText =>
            same (by cases signature; cases isText; rfl)
          simp [same, different]
  have nothing : model.clear.profile? signature store = none := rfl
  have restored := taken model.clear
  rw [nothing, Option.or_none] at restored
  exact restored

namespace Settled

theorem storesOf_ext (settled : model.Settled) {other : Model}
    (otherSettled : other.Settled) {signature : Signature}
    (same : ∀ store,
      model.profile? signature store = other.profile? signature store) :
    model.storesOf signature = other.storesOf signature :=
  (settled.ordered_storesOf signature).ext
    (otherSettled.ordered_storesOf signature) same

theorem get?_profiles (settled : model.Settled) (text : String) :
    model.profiles.get? text =
      if model.storesOf ⟨text⟩ = [] then none
      else some (model.storesOf ⟨text⟩) := by
  unfold storesOf
  cases found : model.profiles.get? text with
  | none => rfl
  | some stores =>
      have nonempty := settled.full _ (Keyed.mem_of_get?_eq_some found)
      rw [Option.getD_some, if_neg nonempty]

protected theorem ext (settled : model.Settled) {other : Model}
    (otherSettled : other.Settled) (sizes : model.SameSizes other)
    (same : ∀ signature store,
      model.profile? signature store = other.profile? signature store) :
    model = other := by
  have sameProfiles : model.profiles = other.profiles := by
    apply settled.sorted.signatures.ext otherSettled.sorted.signatures
    intro text
    rw [snapshot, snapshot, settled.get?_profiles,
      otherSettled.get?_profiles,
      settled.storesOf_ext otherSettled (same ⟨text⟩)]
  have sameIndex : model.index = other.index := by
    rw [settled.indexed, otherSettled.indexed, snapshot, snapshot,
      sameProfiles]
  obtain ⟨sameCapacity, sameSaturation⟩ := sizes
  cases model
  cases other
  simp_all

/-- A model is the one that its own snapshot restores. -/
theorem restore_snapshot (settled : model.Settled) :
    (Model.empty model.capacity model.saturation).restore model.snapshot =
      model := by
  have sizes := sameSizes_restore (.empty model.capacity model.saturation)
    model.snapshot
  apply (settled_restore _ _).ext settled ⟨sizes.capacity, sizes.saturation⟩
  intro signature store
  rw [profile?_restore _ settled.sorted, snapshot_profile?]
  cases found : model.profile? signature store with
  | none => rfl
  | some profile => exact congrArg _ (adopt_of_settled (settled.profile found))

end Settled

end Model

end Polystore
