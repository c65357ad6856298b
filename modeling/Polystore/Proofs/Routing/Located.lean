import Polystore.Proofs.Routing.Candidates
import Polystore.Routing.Location

/-!
# Where data is located

Locating the data of a query contacts stores with probes only: the store of
every candidate whose text addresses something is probed for it, and the others
are left alone.
-/

namespace Polystore

/-- The store is asked for an object and not to run a query. -/
def Contact.IsProbe : Contact → Prop
  | .probe _ _ => True
  | .query _ _ => False

namespace Candidate

/-- The probe of a candidate's store, where its text addresses something. -/
def probe? (candidate : Candidate) : Option Contact :=
  (Query.subject? candidate.dialect candidate.query).map
    (.probe candidate.name)

/-- What a candidate's store replies to the probe.  A store that is not
registered does not come to an end. -/
def probed? (limit : Nat) (registry : Registry) (candidate : Candidate) :
    Option (Reply Bool) :=
  (Query.subject? candidate.dialect candidate.query).map fun subject =>
    match registry.find? candidate.name with
    | none => .crashed
    | some store => (store.probeWithin limit subject).2

theorem isProbe_of_probe? {candidate : Candidate} {contact : Contact}
    (isContact : candidate.probe? = some contact) :
    contact.IsProbe ∧ contact.store = candidate.name := by
  obtain ⟨subject, _, rfl⟩ := Option.map_eq_some_iff.mp isContact
  exact ⟨trivial, rfl⟩

theorem textFor?_probes (name : String) (candidates : List Candidate) :
    (candidates.filterMap probe?).filterMap (Contact.textFor? name) = [] := by
  apply List.filterMap_eq_nil_iff.mpr
  intro contact member
  obtain ⟨candidate, _, isContact⟩ := List.mem_filterMap.mp member
  have isProbe := (isProbe_of_probe? isContact).1
  cases contact with
  | probe store subject => exact ite_self none
  | query store text => cases isProbe

end Candidate

namespace Location

variable {candidate : Candidate}

/-- Probes one candidate, with the reply of its store. -/
def ask (limit : Nat) (registry : Registry) (candidate : Candidate) :
    Registry × Option (Reply Bool) :=
  (registry.follow limit candidate.probe?.toList,
    candidate.probed? limit registry)

/-- The candidate's store holds the data, as far as a probe tells. -/
def finds (limit : Nat) (registry : Registry) (candidate : Candidate) : Bool :=
  (probeOne limit registry candidate).2.getD false

theorem registry_probeOne (limit : Nat) (registry : Registry)
    (candidate : Candidate) :
    (probeOne limit registry candidate).1 =
      (ask limit registry candidate).1 := by
  unfold probeOne ask Candidate.probe?
  cases Query.subject? candidate.dialect candidate.query with
  | none => rfl
  | some subject =>
      cases found : registry.find? candidate.name with
      | none => simp [Registry.follow, Registry.contact, Contact.store, found]
      | some store =>
          simp [Registry.follow, Registry.contact, Contact.store, found,
            Store.asked]

theorem finds_eq (limit : Nat) (registry : Registry) (candidate : Candidate) :
    finds limit registry candidate =
      (candidate.probed? limit registry).any isPresent := by
  unfold finds probeOne Candidate.probed?
  cases Query.subject? candidate.dialect candidate.query with
  | none => rfl
  | some subject => cases registry.find? candidate.name <;> rfl

theorem find?_ask_of_ne {name : String} (limit : Nat) (registry : Registry)
    (different : candidate.name ≠ name) :
    (ask limit registry candidate).1.find? name = registry.find? name := by
  unfold ask
  cases isContact : candidate.probe? with
  | none => rfl
  | some contact =>
      have isStore := (Candidate.isProbe_of_probe? isContact).2
      exact Registry.find?_contact_of_ne limit (isStore.trans_ne different)

theorem findings_cons (limit place : Nat) (registry : Registry)
    (candidate : Candidate) (rest : List Candidate) :
    (probeFrom limit place registry (candidate :: rest)).2 =
      ((probeOne limit registry candidate).2.map (place, ·)).toList ++
        (probeFrom limit (place + 1) (probeOne limit registry candidate).1
          rest).2 := rfl

theorem registry_probeFrom (limit place : Nat) (registry : Registry)
    (candidates : List Candidate) :
    (probeFrom limit place registry candidates).1 =
      registry.follow limit (candidates.filterMap Candidate.probe?) := by
  induction candidates generalizing place registry with
  | nil => rfl
  | cons candidate rest induction =>
      have front : (candidate :: rest).filterMap Candidate.probe? =
          candidate.probe?.toList ++ rest.filterMap Candidate.probe? := by
        cases isContact : candidate.probe? <;> simp [isContact]
      rw [front, Registry.follow_append]
      exact (induction (place + 1) _).trans
        (congrArg (Registry.follow limit · _)
          (registry_probeOne limit registry candidate))

/-- Locating probes stores and does nothing else to them. -/
theorem registry_locate (limit : Nat) (registry : Registry)
    (candidates : List Candidate) :
    (locate limit registry candidates).1 =
      registry.follow limit (candidates.filterMap Candidate.probe?) :=
  registry_probeFrom limit 0 registry candidates

end Location

end Polystore
