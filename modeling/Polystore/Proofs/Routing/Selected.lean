import Polystore.Proofs.Routing.Candidates
import Polystore.Routing.Selection

/-!
# Which store is selected

A selection always succeeds when there are stores: the store that it names is
registered, and it is one of the located ones as soon as there are some.
-/

namespace Polystore

variable {settings : Settings} {registry : Registry} {model : Model}
  {query : String} {dialect : Dialect} {located : List Candidate}

theorem Registry.exists_defaultFor (nonempty : registry.stores ≠ [])
    (dialect : Dialect) (configured : Option String) :
    ∃ store ∈ registry.stores,
      registry.defaultFor dialect configured = .ok store := by
  unfold defaultFor
  cases isConfigured : configured.bind registry.find? with
  | some store =>
      obtain ⟨name, _, found⟩ := Option.bind_eq_some_iff.mp isConfigured
      exact ⟨store, (find?_eq_some found).1, rfl⟩
  | none =>
      cases isServing : (registry.serving dialect).head? with
      | some store =>
          have inServing := List.mem_of_mem_head? isServing
          exact ⟨store, List.mem_of_mem_filter inServing, rfl⟩
      | none =>
          obtain ⟨store, rest, isFirst⟩ := List.exists_cons_of_ne_nil nonempty
          exact ⟨store, by simp [isFirst], by simp [isFirst]⟩

theorem Registry.mem_of_defaultFor {configured : Option String} {store : Store}
    (isDefault : registry.defaultFor dialect configured = .ok store) :
    store ∈ registry.stores := by
  obtain ⟨stores⟩ := registry
  cases stores with
  | nil =>
      have noneNamed : configured.bind (Registry.mk []).find? = none := by
        cases configured <;> rfl
      rw [defaultFor, noneNamed] at isDefault
      cases isDefault
  | cons first rest =>
      have nonempty : (Registry.mk (first :: rest)).stores ≠ [] :=
        List.cons_ne_nil first rest
      obtain ⟨other, member, isOther⟩ :=
        exists_defaultFor nonempty dialect configured
      rw [isDefault] at isOther
      cases isOther
      exact member

theorem Candidate.name_forStore (settings : Settings) (registry : Registry)
    (query : String) (dialect : Dialect) (store : Store) :
    (forStore settings registry query dialect store).name = store.name := by
  unfold forStore
  cases found : (all settings registry query dialect).find? fun candidate =>
      candidate.name == store.name with
  | none => rfl
  | some candidate => simpa using List.find?_some found

namespace Selection

theorem preferred_mem (registry : Registry) (scores : Keyed Float)
    (first : Candidate) (rest : List Candidate) :
    preferred registry scores first rest ∈ first :: rest := by
  unfold preferred
  induction rest generalizing first with
  | nil => exact List.mem_cons_self
  | cons next rest induction =>
      rw [List.foldl_cons]
      split
      · exact List.mem_cons_of_mem _ (induction next)
      · rcases List.mem_cons.mp (induction first) with same | inRest
        · rw [same]
          exact List.mem_cons_self
        · exact List.mem_cons_of_mem _ (List.mem_cons_of_mem _ inRest)

theorem trusted?_mem {state : LearningState} {prediction : Option Prediction}
    {candidate : Candidate} {trusted : Prediction}
    (isTrusted : trusted? state prediction located =
      some (candidate, trusted)) : candidate ∈ located := by
  simp only [trusted?, Option.bind_eq_bind, Option.bind_eq_some_iff]
    at isTrusted
  obtain ⟨_, _, other, found, exploits⟩ := isTrusted
  split at exploits
  · cases exploits
    exact List.mem_of_find?_eq_some found
  · cases exploits

/-- What every selection is like. -/
structure Fits (registry : Registry) (located : List Candidate)
    (selection : Selection) : Prop where
  registered : selection.store ∈ registry.names
  names : selection.located = located.map Candidate.name
  among : located ≠ [] → selection.store ∈ located.map Candidate.name

theorem fits_of_mem {candidate : Candidate} {state : LearningState}
    {reason : SelectionReason} {scores : Keyed Float} {confidence : Float}
    (registered : ∀ candidate ∈ located, candidate.name ∈ registry.names)
    (member : candidate ∈ located) :
    (ofCandidate candidate state reason scores (located.map Candidate.name)
      confidence).Fits registry located where
  registered := registered candidate member
  names := rfl
  among _ := List.mem_map_of_mem member

theorem exists_select (nonempty : registry.stores ≠ [])
    (registered : ∀ candidate ∈ located, candidate.name ∈ registry.names)
    (settings : Settings) (model : Model) (query : String)
    (dialect : Dialect) :
    ∃ selection,
      select settings registry model query dialect located = .ok selection ∧
        selection.Fits registry located := by
  match located with
  | [] =>
      obtain ⟨store, inStores, isDefault⟩ :=
        registry.exists_defaultFor nonempty dialect
          (settings.defaultStores.ofDialect dialect)
      refine ⟨_, by rw [select, isDefault]; rfl, ?_⟩
      constructor
      · show (Candidate.forStore settings registry query dialect store).name ∈ _
        rw [Candidate.name_forStore]
        exact List.mem_map_of_mem inStores
      · rfl
      · exact fun some => absurd rfl some
  | [only] => exact ⟨_, rfl, fits_of_mem registered List.mem_cons_self⟩
  | first :: second :: rest =>
      rw [select]
      · split
        · rename_i candidate trusted isTrusted
          exact ⟨_, rfl, fits_of_mem registered (trusted?_mem isTrusted)⟩
        · exact ⟨_, rfl, fits_of_mem registered (preferred_mem _ _ _ _)⟩
      · exact List.cons_ne_nil second rest

end Selection

namespace Registry

variable {other : Registry}

theorem map_find?_congr (same : registry.descriptors = other.descriptors)
    (name : String) :
    (registry.find? name).map Store.descriptor =
      (other.find? name).map Store.descriptor := by
  have byDescriptor : ∀ registry : Registry,
      (registry.find? name).map Store.descriptor =
        registry.descriptors.find? fun descriptor =>
          descriptor.name == name := by
    intro registry
    rw [find?, descriptors, List.find?_map]
    rfl
  rw [byDescriptor, byDescriptor, same]

theorem map_defaultFor_congr (same : registry.descriptors = other.descriptors)
    (dialect : Dialect) (configured : Option String) :
    (registry.defaultFor dialect configured).map Store.descriptor =
      (other.defaultFor dialect configured).map Store.descriptor := by
  have byDescriptor : ∀ registry : Registry,
      (registry.defaultFor dialect configured).map Store.descriptor =
        match (configured.bind fun name =>
            (registry.find? name).map Store.descriptor).or
          ((registry.descriptors.filter (·.serves dialect)).head?.or
            registry.descriptors.head?) with
        | some descriptor => .ok descriptor
        | none => .error (.noStore dialect.name) := by
    intro registry
    have serving : registry.descriptors.filter (·.serves dialect) =
        (registry.serving dialect).map Store.descriptor := by
      rw [descriptors, List.filter_map]
      rfl
    have named : (configured.bind fun name =>
        (registry.find? name).map Store.descriptor) =
          (configured.bind registry.find?).map Store.descriptor := by
      rw [Option.map_bind]
      rfl
    rw [serving, named, descriptors, List.head?_map, List.head?_map,
      ← Option.map_or, ← Option.map_or, defaultFor]
    cases (configured.bind registry.find?).or
      ((registry.serving dialect).head?.or registry.stores.head?) <;> rfl
  rw [byDescriptor, byDescriptor, same]
  simp only [map_find?_congr same]

end Registry

theorem Candidate.forStore_congr {other : Registry} {store otherStore : Store}
    (same : registry.descriptors = other.descriptors)
    (sameStore : store.descriptor = otherStore.descriptor) :
    forStore settings registry query dialect store =
      forStore settings other query dialect otherStore := by
  have sameName : store.name = otherStore.name :=
    congrArg Descriptor.name sameStore
  rw [forStore, forStore, all_congr same, sameName, asIs, asIs, sameStore]

namespace Selection

theorem preferred_congr {other : Registry}
    (same : registry.descriptors = other.descriptors) (scores : Keyed Float)
    (first : Candidate) (rest : List Candidate) :
    preferred registry scores first rest =
      preferred other scores first rest := by
  have sameOrder : compareCandidates registry scores =
      compareCandidates other scores := by
    funext left right
    simp only [compareCandidates, Candidate.position_congr same]
  rw [preferred, preferred, sameOrder]

/-- What is selected among located candidates depends on what is known about
the stores alone. -/
theorem select_congr {other : Registry}
    (same : registry.descriptors = other.descriptors) :
    select settings registry model query dialect located =
      select settings other model query dialect located := by
  match located with
  | [] =>
      have sameDefault := Registry.map_defaultFor_congr same dialect
        (settings.defaultStores.ofDialect dialect)
      rw [select, select]
      cases isDefault : registry.defaultFor dialect
          (settings.defaultStores.ofDialect dialect) with
      | error fault =>
          cases otherDefault : other.defaultFor dialect
              (settings.defaultStores.ofDialect dialect) with
          | error otherFault =>
              rw [isDefault, otherDefault] at sameDefault
              cases sameDefault
              rfl
          | ok store =>
              rw [isDefault, otherDefault] at sameDefault
              cases sameDefault
      | ok store =>
          cases otherDefault : other.defaultFor dialect
              (settings.defaultStores.ofDialect dialect) with
          | error fault =>
              rw [isDefault, otherDefault] at sameDefault
              cases sameDefault
          | ok otherStore =>
              rw [isDefault, otherDefault] at sameDefault
              have sameStore : store.descriptor = otherStore.descriptor :=
                Except.ok.inj sameDefault
              simp only [Except.map, Candidate.forStore_congr same sameStore]
  | [only] => rfl
  | first :: second :: rest =>
      rw [select, select]
      · simp only [preferred_congr same]
      · exact List.cons_ne_nil second rest
      · exact List.cons_ne_nil second rest

theorem forced_of_mem {name : String} (member : name ∈ registry.names)
    (settings : Settings) (query : String) (dialect : Dialect) :
    ∃ selection, forced settings registry query dialect name = .ok selection ∧
      selection.store = name ∧ selection.located = [] := by
  obtain ⟨store, found⟩ := Registry.exists_find? member
  refine ⟨_, by rw [forced, Registry.get, found]; rfl, ?_, rfl⟩
  show (Candidate.forStore settings registry query dialect store).name = name
  rw [Candidate.name_forStore, (Registry.find?_eq_some found).2]

theorem forced_of_not_mem {name : String} (absent : name ∉ registry.names) :
    forced settings registry query dialect name =
      .error (registry.unknown name) := by
  rw [forced, Registry.get, Registry.find?_eq_none_iff.mpr absent]
  rfl

end Selection

end Polystore
