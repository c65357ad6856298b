import Mathlib.Algebra.Order.BigOperators.Group.List
import Mathlib.Data.List.Induction
import Polystore.Proofs.Learning.Coverage
import Polystore.Proofs.Learning.Consistency

/-!
# Profiles without samples

An observation leaves a sample behind, so a profile that has none was taken
over from a saved document.  It stays until its pair is observed, or until the
model is cleared or restored anew.  A profile like this makes the difference
between a signature that is known and one that has been sampled.
-/

namespace Polystore

/-- There is a profile of the signature on the store, but no sample in it. -/
def ProfileDocument.Bare (document : ProfileDocument) (signature : Signature)
    (store : String) : Prop :=
  ∃ profile, document.profile? signature store = some profile ∧
    profile.window.samples = []

namespace Model

/-- The samples that a model holds of a signature on a store. -/
def samplesOf (model : Model) (signature : Signature) (store : String) :
    List Sample :=
  ((model.profile? signature store).map (·.window.samples)).getD []

namespace Change

/-- The change brings in a profile of the pair without samples. -/
def Bares (signature : Signature) (store : String) : Change → Prop
  | .restore document => document.Bare signature store
  | _ => False

/-- The change is a sample of another pair. -/
def PassesBy (signature : Signature) (store : String) : Change → Prop
  | .observe other target _ => ¬(signature = other ∧ store = target)
  | _ => False

/-- The last that the changes did to the pair was to bring in a profile
without samples. -/
def LeavesBare (changes : List Change) (signature : Signature)
    (store : String) : Prop :=
  ∃ before change after, changes = before ++ change :: after ∧
    change.Bares signature store ∧
    ∀ later ∈ after, later.PassesBy signature store

/-- The documents among the changes can be read from texts. -/
def Readable (changes : List Change) : Prop :=
  ∀ document, .restore document ∈ changes →
    ∃ tree, ProfileDocument.decode tree = some document

end Change

variable {model : Model} {signature : Signature} {store : String}

theorem samplesOf_of_none (unknown : model.profile? signature store = none) :
    model.samplesOf signature store = [] := by
  rw [samplesOf, unknown]
  rfl

theorem samplesOf_of_some {profile : Profile}
    (known : model.profile? signature store = some profile) :
    model.samplesOf signature store = profile.window.samples := by
  rw [samplesOf, known]
  rfl

theorem bare_iff :
    model.snapshot.Bare signature store ↔
      model.profile? signature store ≠ none ∧
        model.samplesOf signature store = [] := by
  constructor
  · rintro ⟨profile, known, empty⟩
    rw [snapshot_profile?] at known
    exact ⟨by simp [known], (samplesOf_of_some known).trans empty⟩
  · rintro ⟨known, empty⟩
    obtain ⟨profile, isProfile⟩ := Option.ne_none_iff_exists'.mp known
    exact ⟨profile, isProfile, (samplesOf_of_some isProfile).symm.trans empty⟩

theorem bare_observe (model : Model) (signature other : Signature)
    (store target : String) (sample : Sample) :
    (model.observe other target sample).snapshot.Bare signature store ↔
      model.snapshot.Bare signature store ∧
        ¬(signature = other ∧ store = target) := by
  have observed := profile?_observe model other signature target store sample
  by_cases same : signature = other ∧ store = target
  · rw [if_pos same] at observed
    constructor
    · rintro ⟨profile, known, empty⟩
      rw [snapshot_profile?, observed] at known
      cases known
      obtain ⟨kept, -, samples⟩ := samples_observe
        ((model.profile? other target).getD
          (.empty target model.capacity sample.timestamp)) sample
        model.saturation
      rw [samples] at empty
      exact absurd empty (by simp)
    · exact fun ⟨_, different⟩ => absurd same different
  · rw [if_neg same] at observed
    simp only [ProfileDocument.Bare, snapshot_profile?, observed]
    exact (and_iff_left same).symm

theorem not_bare_clear (model : Model) :
    ¬model.clear.snapshot.Bare signature store := by
  rintro ⟨profile, known, -⟩
  cases known

/-- There is room for a sample, so none is cut off that leaves none. -/
theorem bare_restore (model : Model) {document : ProfileDocument}
    (sorted : document.Sorted) :
    (model.restore document).snapshot.Bare signature store ↔
      document.Bare signature store := by
  have restored := profile?_restore model sorted signature store
  have emptied : ∀ profile : Profile,
      (model.adopt store profile).window.samples = [] ↔
        profile.window.samples = [] := by
    intro profile
    rw [samples_adopt, ← List.length_eq_zero_iff, List.length_rtake,
      ← List.length_eq_zero_iff]
    omega
  simp only [ProfileDocument.Bare, snapshot_profile?, restored]
  constructor
  · rintro ⟨adopted, known, empty⟩
    obtain ⟨profile, found, rfl⟩ := Option.map_eq_some_iff.mp known
    exact ⟨profile, found, (emptied profile).mp empty⟩
  · rintro ⟨profile, found, empty⟩
    exact ⟨model.adopt store profile, by rw [found]; rfl,
      (emptied profile).mpr empty⟩

theorem bare_change {change : Change} (readable : Change.Readable [change]) :
    (model.change change).snapshot.Bare signature store ↔
      change.Bares signature store ∨
        model.snapshot.Bare signature store ∧
          change.PassesBy signature store := by
  cases change with
  | observe other target sample =>
      simp only [Change.Bares, Change.PassesBy, false_or]
      exact bare_observe model signature other store target sample
  | clear =>
      simp only [Change.Bares, Change.PassesBy, and_false, or_false,
        iff_false]
      exact not_bare_clear model
  | restore document =>
      obtain ⟨tree, decoded⟩ := readable document List.mem_cons_self
      simp only [Change.Bares, Change.PassesBy, and_false, or_false]
      exact bare_restore model (ProfileDocument.sorted_of_decode decoded)

theorem Change.leavesBare_concat {changes : List Change} {change : Change} :
    LeavesBare (changes ++ [change]) signature store ↔
      change.Bares signature store ∨
        LeavesBare changes signature store ∧
          change.PassesBy signature store := by
  constructor
  · rintro ⟨before, bared, after, split, bares, passes⟩
    rcases List.eq_nil_or_concat after with rfl | ⟨front, last, rfl⟩
    · obtain ⟨-, same⟩ := List.append_inj' split rfl
      cases same
      exact .inl bares
    · rw [List.concat_eq_append] at split passes
      have regrouped : before ++ bared :: (front ++ [last]) =
          (before ++ bared :: front) ++ [last] := by simp
      obtain ⟨same, isLast⟩ := List.append_inj' (split.trans regrouped) rfl
      cases isLast
      refine .inr ⟨⟨before, bared, front, same, bares, ?_⟩, ?_⟩
      · exact fun later member =>
          passes later (List.mem_append_left _ member)
      · exact passes change (by simp)
  · rintro (bares | ⟨⟨before, bared, after, rfl, bares, passes⟩, passesBy⟩)
    · exact ⟨changes, change, [], rfl, bares, by simp⟩
    · refine ⟨before, bared, after ++ [change], by simp, bares, ?_⟩
      intro later member
      rcases List.mem_append.mp member with old | isLast
      · exact passes later old
      · rwa [List.mem_singleton.mp isLast]

/-- A profile without samples is one that was restored as such, and of whose
pair nothing has been observed since. -/
theorem bare_changeAll_iff (capacity saturation : Nat)
    {changes : List Change} (readable : Change.Readable changes) :
    ((Model.empty capacity saturation).changeAll changes).snapshot.Bare
        signature store ↔
      Change.LeavesBare changes signature store := by
  induction changes using List.reverseRecOn with
  | nil =>
      constructor
      · rintro ⟨profile, known, -⟩
        cases known
      · rintro ⟨before, change, after, split, -⟩
        exact absurd split (by simp)
  | append_singleton changes change induction =>
      have readableBefore : Change.Readable changes :=
        fun document member =>
          readable document (List.mem_append_left _ member)
      have readableLast : Change.Readable [change] :=
        fun document member =>
          readable document (List.mem_append_right _ member)
      have last : (Model.empty capacity saturation).changeAll
            (changes ++ [change]) =
          ((Model.empty capacity saturation).changeAll changes).change
            change := by
        rw [changeAll, List.foldl_append]
        rfl
      rw [last, bare_change readableLast, induction readableBefore,
        Change.leavesBare_concat]

/-- A signature that is known without a sample is known from profiles without
samples only. -/
theorem unknown_iff_unsampled_iff :
    ((∀ store, model.profile? signature store = none) ↔
        ∀ store, model.samplesOf signature store = []) ↔
      (∃ store, model.samplesOf signature store ≠ []) ∨
        ∀ store, ¬model.snapshot.Bare signature store := by
  constructor
  · intro same
    by_cases sampled : ∃ store, model.samplesOf signature store ≠ []
    · exact .inl sampled
    · right
      intro store isBare
      have unknown := same.mpr fun store => by
        by_contra some
        exact sampled ⟨store, some⟩
      exact (bare_iff.mp isBare).1 (unknown store)
  · intro known
    constructor
    · exact fun unknown store => samplesOf_of_none (unknown store)
    · intro empty store
      rcases known with ⟨other, some⟩ | notBare
      · exact absurd (empty other) some
      · by_contra isKnown
        exact notBare store (bare_iff.mpr ⟨isKnown, empty store⟩)

namespace Settled

theorem profilesFor_eq_nil_iff (settled : model.Settled) :
    model.profilesFor signature = [] ↔
      ∀ store, model.profile? signature store = none := by
  rw [settled.profilesFor_eq, Keyed.values, List.map_eq_nil_iff]
  constructor
  · intro nothing store
    rw [profile?, nothing]
    rfl
  · intro unknown
    apply List.eq_nil_iff_forall_not_mem.mpr
    intro entry member
    have found := Keyed.get?_of_mem
      (settled.ordered_storesOf signature).nodup_keys member
    have notFound := unknown entry.1
    rw [profile?, found] at notFound
    cases notFound

theorem score_of_bare (settled : model.Settled) {profile : Profile}
    (known : model.profile? signature store = some profile)
    (empty : profile.window.samples = []) : profile.score = 0.0 := by
  have recomputed := congrArg Profile.score (settled.profile known).recomputed
  rw [← recomputed, Profile.recompute, empty]
  rfl

theorem sampleCount_eq_zero_iff (settled : model.Settled) :
    model.sampleCount signature = 0 ↔
      ∀ store, model.samplesOf signature store = [] := by
  have total : model.sampleCount signature =
      ((model.storesOf signature).map fun entry => entry.2.samples).sum := by
    rw [(settled.tells signature).sampleCount, List.sum_eq_foldl,
      List.foldl_map]
  rw [total, List.sum_eq_zero_iff]
  constructor
  · intro zero store
    cases known : model.profile? signature store with
    | none => exact samplesOf_of_none known
    | some profile =>
        have member : (store, profile) ∈ model.storesOf signature :=
          Keyed.mem_of_get?_eq_some known
        have isZero : profile.samples = 0 :=
          zero _ (List.mem_map_of_mem member)
        rw [samplesOf_of_some known]
        exact List.length_eq_zero_iff.mp isZero
  · intro empty size member
    obtain ⟨entry, isEntry, rfl⟩ := List.mem_map.mp member
    have known : model.profile? signature entry.1 = some entry.2 :=
      Keyed.get?_of_mem (settled.ordered_storesOf signature).nodup_keys isEntry
    have none := empty entry.1
    rw [samplesOf_of_some known] at none
    exact List.length_eq_zero_iff.mpr none

end Settled

end Model

end Polystore
