import Mathlib.Data.List.Basic
import Polystore.Proofs.Learning.Snapshot

/-!
# Turnover of windows

Samples come into a window by being pushed and leave it again as the oldest
ones, when another sample needs their room or when the window gets smaller.
Over any course of such changes no sample is lost, doubled or overtaken: those
that have left, followed by those that are still there, are those that came.
-/

namespace Polystore.Window

variable {α : Type}

/-- What can be done to a window. -/
inductive Change (α : Type) where
  | push (sample : α)
  | resize (capacity : Nat)
deriving DecidableEq, Repr

def Change.sample? : Change α → Option α
  | .push sample => some sample
  | .resize _ => none

def Change.capacity? : Change α → Option Nat
  | .push _ => none
  | .resize capacity => some capacity

/-- The samples that leave from the front, one after the other, as long as
there are more than fit, and the samples that stay. -/
def shed (capacity : Nat) : List α → List α × List α
  | [] => ([], [])
  | sample :: samples =>
    if capacity < (sample :: samples).length then
      let (gone, kept) := shed capacity samples
      (sample :: gone, kept)
    else ([], sample :: samples)

def undergo (window : Window α) : Change α → Window α
  | .push sample => window.push sample
  | .resize capacity => window.resize capacity

/-- The samples that a change makes leave, oldest first. -/
def leaving (window : Window α) : Change α → List α
  | .push _ => window.evicted?.toList
  | .resize capacity => (shed (max capacity 1) window.samples).1

def undergoAll (window : Window α) (changes : List (Change α)) : Window α :=
  changes.foldl undergo window

/-- The samples that leave in the course of changes, in order. -/
def leavingAll (window : Window α) : List (Change α) → List α
  | [] => []
  | change :: changes =>
    window.leaving change ++ (window.undergo change).leavingAll changes

/-- There is room, and the samples fit into it. -/
structure Fits (window : Window α) : Prop where
  positive : 0 < window.capacity
  size_le : window.size ≤ window.capacity

variable {window : Window α}

theorem shed_append (capacity : Nat) (samples : List α) :
    (shed capacity samples).1 ++ (shed capacity samples).2 = samples := by
  induction samples with
  | nil => rfl
  | cons sample samples induction =>
      rw [shed]
      split
      · exact congrArg (sample :: ·) induction
      · rfl

theorem shed_snd (capacity : Nat) (samples : List α) :
    (shed capacity samples).2 = samples.drop (samples.length - capacity) := by
  induction samples with
  | nil => exact List.drop_nil.symm
  | cons sample samples induction =>
      rw [shed]
      split
      · rename_i tooMany
        have one : (sample :: samples).length - capacity =
            samples.length - capacity + 1 := by
          rw [List.length_cons] at tooMany ⊢
          omega
        rw [one, List.drop_succ_cons]
        exact induction
      · rename_i enough
        have none : (sample :: samples).length - capacity = 0 := by omega
        rw [none, List.drop_zero]

theorem evicted?_append_push (positive : 0 < window.capacity) (sample : α) :
    window.evicted?.toList ++ (window.push sample).samples =
      window.samples ++ [sample] := by
  by_cases full : window.capacity ≤ window.size
  · rw [evicted?, push, if_pos full, if_pos full]
    cases samples : window.samples with
    | nil =>
        rw [size, samples, List.length_nil] at full
        omega
    | cons oldest others => rfl
  · rw [evicted?, push, if_neg full, if_neg full]
    rfl

/-- At most one sample leaves when another one comes, and only if the window is
full. -/
theorem Fits.leaving_push (fits : window.Fits) (sample : α) :
    (window.leaving (.push sample)).length ≤ 1 ∧
      (window.leaving (.push sample) ≠ [] ↔
        window.size = window.capacity) := by
  have size_le := fits.size_le
  have positive := fits.positive
  rw [leaving, evicted?]
  by_cases full : window.capacity ≤ window.size
  · rw [if_pos full]
    cases samples : window.samples with
    | nil =>
        rw [size, samples, List.length_nil] at full
        omega
    | cons oldest others =>
        refine ⟨Nat.le_refl 1, iff_of_true (List.cons_ne_nil _ _) ?_⟩
        omega
  · rw [if_neg full]
    refine ⟨Nat.zero_le 1, iff_of_false (fun some => some rfl) ?_⟩
    omega

/-- A change loses no sample. -/
theorem leaving_append_undergo (positive : 0 < window.capacity)
    (change : Change α) :
    window.leaving change ++ (window.undergo change).samples =
      window.samples ++ change.sample?.toList := by
  cases change with
  | push sample => exact evicted?_append_push positive sample
  | resize capacity =>
      have kept : (window.resize capacity).samples =
          (shed (max capacity 1) window.samples).2 := (shed_snd _ _).symm
      rw [leaving, undergo, kept, shed_append]
      exact (List.append_nil _).symm

theorem capacity_undergo (window : Window α) (change : Change α) :
    (window.undergo change).capacity =
      (change.capacity?.map (max 1)).getD window.capacity := by
  cases change with
  | push sample => rfl
  | resize capacity => exact Nat.max_comm capacity 1

theorem Fits.undergo (fits : window.Fits) (change : Change α) :
    (window.undergo change).Fits := by
  cases change with
  | push sample =>
      exact ⟨fits.positive, size_push_le fits.positive fits.size_le sample⟩
  | resize capacity =>
      exact ⟨Nat.le_max_right capacity 1, size_resize_le window capacity⟩

theorem fits_empty (capacity : Nat) : (empty capacity : Window α).Fits :=
  ⟨Nat.le_max_right capacity 1, Nat.zero_le _⟩

theorem latest?_undergo (window : Window α) (change : Change α) :
    (window.undergo change).latest? = change.sample?.or window.latest? := by
  cases change with
  | push sample =>
      rw [undergo, latest?, push]
      exact List.getLast?_concat
  | resize capacity =>
      have room : 0 < max capacity 1 := Nat.le_max_right capacity 1
      rw [undergo, latest?, resize, List.getLast?_drop]
      by_cases none : window.samples.length = 0
      · have isEmpty := List.eq_nil_of_length_eq_zero none
        simp [latest?, isEmpty, Change.sample?]
      · have some : ¬window.samples.length ≤
            window.size - max capacity 1 := by
          rw [size]
          omega
        rw [if_neg some]
        rfl

theorem leavingAll_append_undergoAll (fits : window.Fits)
    (changes : List (Change α)) :
    window.leavingAll changes ++ (window.undergoAll changes).samples =
      window.samples ++ changes.filterMap Change.sample? := by
  induction changes generalizing window with
  | nil =>
      rw [List.filterMap_nil, List.append_nil]
      rfl
  | cons change changes induction =>
      have later := induction (fits.undergo change)
      have first := leaving_append_undergo fits.positive change
      calc window.leavingAll (change :: changes) ++
            (window.undergoAll (change :: changes)).samples
          = window.leaving change ++
              ((window.undergo change).leavingAll changes ++
                ((window.undergo change).undergoAll changes).samples) :=
            List.append_assoc _ _ _
        _ = window.leaving change ++ ((window.undergo change).samples ++
              changes.filterMap Change.sample?) := by rw [later]
        _ = window.samples ++ (change.sample?.toList ++
              changes.filterMap Change.sample?) := by
            rw [← List.append_assoc, first, List.append_assoc]
        _ = window.samples ++ (change :: changes).filterMap Change.sample? := by
            rw [List.filterMap_cons]
            cases change.sample? <;> rfl

theorem Fits.undergoAll (fits : window.Fits) (changes : List (Change α)) :
    (window.undergoAll changes).Fits := by
  induction changes generalizing window with
  | nil => exact fits
  | cons change changes induction => exact induction (fits.undergo change)

theorem capacity_undergoAll (window : Window α) (changes : List (Change α)) :
    (window.undergoAll changes).capacity =
      ((changes.filterMap Change.capacity?).getLast?.map (max 1)).getD
        window.capacity := by
  induction changes generalizing window with
  | nil => rfl
  | cons change changes induction =>
      have later := induction (window.undergo change)
      rw [capacity_undergo] at later
      rw [undergoAll, List.foldl_cons, ← undergoAll, later,
        List.filterMap_cons]
      cases change with
      | push sample => rfl
      | resize capacity =>
          rw [Change.capacity?, List.getLast?_cons]
          cases (changes.filterMap Change.capacity?).getLast? <;> rfl

theorem latest?_undergoAll (window : Window α) (changes : List (Change α)) :
    (window.undergoAll changes).latest? =
      (changes.filterMap Change.sample?).getLast?.or window.latest? := by
  induction changes generalizing window with
  | nil => rfl
  | cons change changes induction =>
      have later := induction (window.undergo change)
      rw [latest?_undergo] at later
      rw [undergoAll, List.foldl_cons, ← undergoAll, later,
        List.filterMap_cons]
      cases change with
      | push sample =>
          rw [Change.sample?, List.getLast?_cons]
          cases (changes.filterMap Change.sample?).getLast? <;> rfl
      | resize capacity => rfl

/-- Whatever is pushed into a new window and however often it is resized, with
capacities down to zero: the samples that have left in the course of it,
followed by those that are kept, are the ones that were pushed, each once and
in their order.  The window never holds more than its capacity, which is the
one asked for last but at least one.  The next sample makes at most one leave,
and only if the window is full.  The latest sample is the one that was pushed
last. -/
theorem undergoAll_accounts (capacity : Nat) (changes : List (Change α)) :
    let window := (empty capacity : Window α).undergoAll changes
    (empty capacity).leavingAll changes ++ window.samples =
        changes.filterMap Change.sample? ∧
      window.size ≤ window.capacity ∧
      window.capacity =
        max 1 ((changes.filterMap Change.capacity?).getLast?.getD capacity) ∧
      (∀ sample, (window.leaving (.push sample)).length ≤ 1 ∧
        (window.leaving (.push sample) ≠ [] ↔
          window.size = window.capacity)) ∧
      window.latest? = (changes.filterMap Change.sample?).getLast? := by
  intro window
  have fits : window.Fits := (fits_empty capacity).undergoAll changes
  refine ⟨leavingAll_append_undergoAll (fits_empty capacity) changes,
    fits.size_le, ?_, fits.leaving_push, ?_⟩
  · rw [capacity_undergoAll]
    cases (changes.filterMap Change.capacity?).getLast? with
    | none => exact Nat.max_comm capacity 1
    | some requested => rfl
  · rw [latest?_undergoAll]
    exact Option.or_none

end Polystore.Window
