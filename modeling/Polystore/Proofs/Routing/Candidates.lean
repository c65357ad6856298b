import Polystore.Proofs.Store.Registry
import Polystore.Routing.Candidate

/-!
# The candidates of a query

Candidates are stores that are registered, and no store is a candidate twice,
even if it serves a query both as it is and in its document form.  Which stores
are candidates does not depend on the state they are in.
-/

namespace Polystore

namespace Registry

variable {registry other : Registry}

theorem map_serving_congr {α : Type} (f : Descriptor → α)
    (same : registry.descriptors = other.descriptors) (dialect : Dialect) :
    (registry.serving dialect).map (fun store => f store.descriptor) =
      (other.serving dialect).map fun store => f store.descriptor := by
  have byDescriptor : ∀ registry : Registry,
      (registry.serving dialect).map (fun store => f store.descriptor) =
        (registry.descriptors.filter (·.serves dialect)).map f := by
    intro registry
    simp [serving, descriptors, List.filter_map, Function.comp_def]
  rw [byDescriptor, byDescriptor, same]

theorem position?_congr (same : registry.descriptors = other.descriptors)
    (name : String) : registry.position? name = other.position? name := by
  have byDescriptor : ∀ registry : Registry, registry.position? name =
      registry.descriptors.findIdx? fun descriptor =>
        descriptor.name == name := by
    intro registry
    rw [descriptors, List.findIdx?_map]
    rfl
  rw [byDescriptor, byDescriptor, same]

theorem exists_position? {name : String} (member : name ∈ registry.names) :
    ∃ index, registry.position? name = some index := by
  obtain ⟨store, inStores, rfl⟩ := List.mem_map.mp member
  apply Option.isSome_iff_exists.mp
  rw [position?, List.findIdx?_isSome]
  exact List.any_eq_true.mpr ⟨store, inStores, beq_self_eq_true _⟩

theorem getElem?_of_position? {name : String} {index : Nat}
    (isIndex : registry.position? name = some index) :
    registry.names[index]? = some name := by
  obtain ⟨inside, isNamed, _⟩ :=
    List.findIdx?_eq_some_iff_getElem.mp isIndex
  rw [names, List.getElem?_map, List.getElem?_eq_getElem inside,
    Option.map_some, beq_iff_eq.mp isNamed]

theorem size_congr (same : registry.descriptors = other.descriptors) :
    registry.size = other.size := by
  have lengths := congrArg List.length same
  simpa [descriptors, size] using lengths

end Registry

namespace Candidate

variable {registry other : Registry} {settings : Settings} {query : String}
  {dialect : Dialect}

theorem natives_congr (same : registry.descriptors = other.descriptors)
    (query : String) (dialect : Dialect) :
    (registry.serving dialect).map (native query dialect) =
      (other.serving dialect).map (native query dialect) :=
  Registry.map_serving_congr
    (fun store => Candidate.mk store query dialect false) same dialect

theorem conversions_congr (same : registry.descriptors = other.descriptors)
    (query : String) :
    conversions registry query = conversions other query := by
  have converted : ∀ text,
      (registry.serving .document).map (conversion text) =
        (other.serving .document).map (conversion text) := fun text =>
    Registry.map_serving_congr
      (fun store => Candidate.mk store text .document true) same .document
  simp only [conversions, converted]

theorem position_congr (same : registry.descriptors = other.descriptors)
    (candidate : Candidate) :
    candidate.position registry = candidate.position other := by
  rw [position, position, Registry.position?_congr same,
    Registry.size_congr same]

/-- The candidates depend on what is known about the stores alone. -/
theorem all_congr (same : registry.descriptors = other.descriptors) :
    all settings registry query dialect =
      all settings other query dialect := by
  simp only [all, natives_congr same, conversions_congr same,
    position_congr same]

theorem names_native_sublist (registry : Registry) (query : String)
    (dialect : Dialect) :
    (((registry.serving dialect).map (native query dialect)).map
      name).Sublist registry.names := by
  rw [List.map_map]
  exact List.filter_sublist.map Store.name

theorem names_conversions_sublist (registry : Registry) (query : String) :
    ((conversions registry query).map name).Sublist registry.names := by
  rw [conversions]
  split
  · exact List.nil_sublist _
  · rw [List.map_map]
    exact List.filter_sublist.map Store.name

theorem perm_all (settings : Settings) (registry : Registry) (query : String)
    (dialect : Dialect) :
    ∃ others, (others.map name).Sublist registry.names ∧
      (∀ candidate ∈ others, candidate.name ∉
        ((registry.serving dialect).map (native query dialect)).map name) ∧
      (all settings registry query dialect).Perm
        ((registry.serving dialect).map (native query dialect) ++ others) := by
  refine ⟨_, ?_, ?_, List.mergeSort_perm _ _⟩
  · split
    · exact (List.filter_sublist.map name).trans
        (names_conversions_sublist registry query)
    · exact List.nil_sublist _
  · intro candidate member
    split at member
    · have apart := List.of_mem_filter member
      intro isNative
      obtain ⟨other, inNatives, sameName⟩ := List.mem_map.mp isNative
      have found : ((registry.serving dialect).map
          (native query dialect)).any (fun other =>
            other.name == candidate.name) = true :=
        List.any_eq_true.mpr ⟨other, inNatives, by simp [sameName]⟩
      rw [found] at apart
      cases apart
    · cases member

theorem nodup_all (distinct : registry.names.Nodup) (settings : Settings)
    (query : String) (dialect : Dialect) :
    ((all settings registry query dialect).map name).Nodup := by
  obtain ⟨others, sublist, apart, perm⟩ :=
    perm_all settings registry query dialect
  rw [(perm.map name).nodup_iff, List.map_append]
  refine List.Nodup.append ?_ (distinct.sublist sublist) ?_
  · exact distinct.sublist (names_native_sublist registry query dialect)
  · intro store isNative isOther
    obtain ⟨candidate, member, rfl⟩ := List.mem_map.mp isOther
    exact apart candidate member isNative

theorem name_mem_of_mem_all {candidate : Candidate}
    (member : candidate ∈ all settings registry query dialect) :
    candidate.name ∈ registry.names := by
  obtain ⟨others, sublist, _, perm⟩ :=
    perm_all settings registry query dialect
  rcases List.mem_append.mp (perm.mem_iff.mp member) with isNative | isOther
  · exact (names_native_sublist registry query dialect).subset
      (List.mem_map_of_mem isNative)
  · exact sublist.subset (List.mem_map_of_mem isOther)

/-- Candidates that stand in order among others are found by their names. -/
theorem filter_of_sublist {located candidates : List Candidate}
    (sublist : located.Sublist candidates)
    (distinct : (candidates.map name).Nodup) :
    candidates.filter (fun candidate =>
      (located.map name).contains candidate.name) = located := by
  induction sublist with
  | slnil => rfl
  | @cons located candidates other sublist induction =>
      obtain ⟨isNew, others⟩ := List.nodup_cons.mp distinct
      have absent : other.name ∉ located.map name := fun member =>
        isNew ((sublist.map name).subset member)
      rw [List.filter_cons_of_neg (by simpa using absent), induction others]
  | @cons_cons located candidates first sublist induction =>
      obtain ⟨isNew, others⟩ := List.nodup_cons.mp distinct
      have rest : candidates.filter (fun candidate =>
          ((first :: located).map name).contains candidate.name) =
          candidates.filter fun candidate =>
            (located.map name).contains candidate.name := by
        apply List.filter_congr
        intro candidate member
        have different : candidate.name ≠ first.name := fun same =>
          isNew (same ▸ List.mem_map_of_mem member)
        simp [different]
      rw [List.filter_cons_of_pos (by simp), rest, induction others]

theorem find?_eq_some_iff {candidates : List Candidate} {candidate : Candidate}
    {wanted : String} (distinct : (candidates.map name).Nodup) :
    (candidates.find? fun candidate => candidate.name == wanted) =
        some candidate ↔ candidate ∈ candidates ∧ candidate.name = wanted := by
  constructor
  · intro found
    exact ⟨List.mem_of_find?_eq_some found, by
      simpa using List.find?_some found⟩
  · rintro ⟨member, rfl⟩
    cases found : candidates.find? fun other =>
        other.name == candidate.name with
    | none =>
        have differs := List.find?_eq_none.mp found candidate member
        exact absurd (beq_self_eq_true _) differs
    | some other =>
        have sameName : other.name = candidate.name := by
          simpa using List.find?_some found
        rw [List.inj_on_of_nodup_map distinct (List.mem_of_find?_eq_some found)
          member sameName]

theorem at_place {candidates rest : List Candidate} {candidate : Candidate}
    {place : Nat} (behind : candidates.drop place = candidate :: rest) :
    candidates[place]? = some candidate ∧
      candidates.drop (place + 1) = rest := by
  constructor
  · rw [← List.head?_drop, behind, List.head?_cons]
  · rw [← List.tail_drop, behind, List.tail_cons]

end Candidate

end Polystore
