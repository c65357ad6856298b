import Polystore.Proofs.Routing.Candidates

/-!
# Candidates in the order of registration

Sorting the candidates by the places of their stores puts each of them where
its store is registered.  The candidates are therefore read off the registry,
store by store: a store that serves the query's dialect runs the query as it
is, and of the others those that serve documents run its document form, where
the query has one that may be used.
-/

namespace Polystore

namespace Registry

variable {registry : Registry}

theorem position?_getElem (distinct : registry.names.Nodup) {index : Nat}
    (inside : index < registry.stores.length) :
    registry.position? (registry.stores[index]).name = some index := by
  have member : (registry.stores[index]).name ∈ registry.names :=
    List.mem_map_of_mem (List.getElem_mem inside)
  obtain ⟨found, isPosition⟩ := exists_position? member
  have atIndex : registry.names[index]? =
      some (registry.stores[index]).name := by
    rw [names, List.getElem?_map, List.getElem?_eq_getElem inside,
      Option.map_some]
  have insideNames : index < registry.names.length := by
    rwa [names, List.length_map]
  have same : found = index := by
    symm
    apply (List.getElem?_inj insideNames distinct).mp
    rw [atIndex, getElem?_of_position? isPosition]
  exact isPosition.trans (congrArg some same)

theorem stores_pairwise_position (distinct : registry.names.Nodup) :
    registry.stores.Pairwise fun earlier later =>
      (registry.position? earlier.name).getD registry.size <
        (registry.position? later.name).getD registry.size := by
  apply List.pairwise_iff_getElem.mpr
  intro first second firstInside secondInside before
  rw [position?_getElem distinct firstInside,
    position?_getElem distinct secondInside]
  exact before

end Registry

namespace Candidate

variable {registry : Registry} {settings : Settings} {query : String}
  {dialect : Dialect}

/-- The document form of a query may be used in its place. -/
def MayConvert (settings : Settings) (query : String) (dialect : Dialect) :
    Prop :=
  dialect = .relational ∧ settings.convertForRouting = true ∧
    Query.documentForm query ≠ query

instance : Decidable (MayConvert settings query dialect) :=
  inferInstanceAs (Decidable (_ ∧ _ ∧ _))

/-- The candidate that a store is, if it is one. -/
def ofStore? (settings : Settings) (query : String) (dialect : Dialect)
    (store : Store) : Option Candidate :=
  if store.descriptor.serves dialect then some (native query dialect store)
  else if MayConvert settings query dialect ∧
      store.descriptor.serves .document = true then
    some (conversion (Query.documentForm query) store)
  else none

theorem ofStore?_eq_some {store : Store} {candidate : Candidate}
    (found : ofStore? settings query dialect store = some candidate) :
    (store.descriptor.serves dialect = true ∧
        candidate = native query dialect store) ∨
      (store.descriptor.serves dialect = false ∧
        MayConvert settings query dialect ∧
        store.descriptor.serves .document = true ∧
        candidate = conversion (Query.documentForm query) store) := by
  unfold ofStore? at found
  split at found
  · rename_i serves
    exact .inl ⟨serves, (Option.some.inj found).symm⟩
  · rename_i foreign
    split at found
    · rename_i converts
      exact .inr ⟨by simpa using foreign, converts.1, converts.2,
        (Option.some.inj found).symm⟩
    · cases found

theorem store_of_ofStore? {store : Store} {candidate : Candidate}
    (found : ofStore? settings query dialect store = some candidate) :
    candidate.store = store.descriptor := by
  rcases ofStore?_eq_some found with ⟨_, rfl⟩ | ⟨_, _, _, rfl⟩
  · rfl
  · rfl

theorem any_natives_eq {store : Store} (distinct : registry.names.Nodup)
    (member : store ∈ registry.stores) (query : String) (dialect : Dialect) :
    (((registry.serving dialect).map (native query dialect)).any fun other =>
        other.name == store.name) = store.descriptor.serves dialect := by
  rw [Bool.eq_iff_iff, List.any_map, List.any_eq_true]
  constructor
  · rintro ⟨other, inServing, sameName⟩
    obtain ⟨otherMember, serves⟩ := List.mem_filter.mp inServing
    have same : other = store := by
      apply Registry.eq_of_name_eq distinct otherMember member
      exact beq_iff_eq.mp sameName
    exact same ▸ serves
  · intro serves
    exact ⟨store, List.mem_filter.mpr ⟨member, serves⟩, beq_self_eq_true _⟩

/-- Among the document stores those remain that are not candidates yet. -/
theorem others_eq (distinct : registry.names.Nodup) (settings : Settings)
    (query : String) (dialect : Dialect) :
    (if dialect == .relational && settings.convertForRouting then
        (conversions registry query).filter fun candidate =>
          !((registry.serving dialect).map (native query dialect)).any
            fun other => other.name == candidate.name
      else []) =
      (registry.stores.filter fun store =>
        !store.descriptor.serves dialect).filterMap
          (ofStore? settings query dialect) := by
  have foreign : ∀ store ∈ registry.stores.filter fun store =>
      !store.descriptor.serves dialect,
      ofStore? settings query dialect store =
        if MayConvert settings query dialect ∧
            store.descriptor.serves .document = true then
          some (conversion (Query.documentForm query) store)
        else none := by
    intro store member
    have apart := List.of_mem_filter member
    rw [ofStore?, if_neg (by simpa using apart)]
  rw [List.filterMap_congr foreign]
  split
  · rename_i asked
    rw [Bool.and_eq_true, beq_iff_eq] at asked
    by_cases unchanged : Query.documentForm query = query
    · have never : ¬MayConvert settings query dialect :=
        fun may => may.2.2 unchanged
      simp [conversions, unchanged, never]
    · have may : MayConvert settings query dialect :=
        ⟨asked.1, asked.2, unchanged⟩
      have isNew : ∀ store ∈ registry.serving .document,
          (!((registry.serving dialect).map (native query dialect)).any
            fun other => other.name ==
              (conversion (Query.documentForm query) store).name) =
            !store.descriptor.serves dialect := by
        intro store member
        exact congrArg (! ·) (any_natives_eq distinct
          (List.mem_filter.mp member).1 query dialect)
      have form : conversions registry query =
          (registry.serving .document).map
            (conversion (Query.documentForm query)) := by
        simp [conversions, unchanged]
      rw [form, List.filter_map,
        List.filter_congr (q := fun store => !store.descriptor.serves dialect)
          isNew, Registry.serving, List.filter_filter, ← List.filterMap_eq_map,
        List.filterMap_filter, List.filterMap_filter]
      apply List.filterMap_congr
      intro store _
      simp [may, ite_and]
  · rename_i notAsked
    have never : ¬MayConvert settings query dialect :=
      fun may => notAsked (by simp [may.1, may.2.1])
    simp [never]

theorem filterMap_pairwise_position (distinct : registry.names.Nodup)
    (settings : Settings) (query : String) (dialect : Dialect) :
    (registry.stores.filterMap (ofStore? settings query dialect)).Pairwise
      fun earlier later =>
        earlier.position registry < later.position registry := by
  apply List.pairwise_filterMap.mpr
  apply (Registry.stores_pairwise_position distinct).imp
  intro earlier later before first isFirst second isSecond
  rw [position, position, name, name, store_of_ofStore? isFirst,
    store_of_ofStore? isSecond]
  exact before

theorem perm_filterMap (distinct : registry.names.Nodup)
    (settings : Settings) (query : String) (dialect : Dialect) :
    (all settings registry query dialect).Perm
      (registry.stores.filterMap (ofStore? settings query dialect)) := by
  have natives : (registry.serving dialect).map (native query dialect) =
      (registry.serving dialect).filterMap
        (ofStore? settings query dialect) := by
    rw [← List.filterMap_eq_map]
    apply List.filterMap_congr
    intro store member
    exact (if_pos (List.of_mem_filter member)).symm
  rw [all]
  apply (List.mergeSort_perm _ _).trans
  rw [others_eq distinct, natives, ← List.filterMap_append]
  exact (List.filter_append_perm _ registry.stores).filterMap _

theorem all_pairwise_le (settings : Settings) (registry : Registry)
    (query : String) (dialect : Dialect) :
    (all settings registry query dialect).Pairwise fun earlier later =>
      earlier.position registry ≤ later.position registry := by
  let notAfter (left right : Candidate) : Bool :=
    decide (left.position registry ≤ right.position registry)
  have transitive : ∀ first second third, notAfter first second = true →
      notAfter second third = true → notAfter first third = true := by
    intro first second third
    simpa [notAfter] using Nat.le_trans
  have total : ∀ first second,
      (notAfter first second || notAfter second first) = true := by
    intro first second
    simpa [notAfter] using Nat.le_total _ _
  have sorted := List.pairwise_mergeSort transitive total
  simp only [notAfter, decide_eq_true_eq] at sorted
  exact sorted _

theorem all_eq_filterMap (distinct : registry.names.Nodup)
    (settings : Settings) (query : String) (dialect : Dialect) :
    all settings registry query dialect =
      registry.stores.filterMap (ofStore? settings query dialect) := by
  have perm := perm_filterMap distinct settings query dialect
  have increasing := filterMap_pairwise_position distinct settings query dialect
  have apart : ((registry.stores.filterMap
      (ofStore? settings query dialect)).map (position registry)).Nodup :=
    List.pairwise_map.mpr (increasing.imp fun before => Nat.ne_of_lt before)
  have sorted := all_pairwise_le settings registry query dialect
  have sortedToo := increasing.imp fun before => Nat.le_of_lt before
  refine perm.eq_of_pairwise ?_ sorted sortedToo
  intro left right inLeft inRight notAfter notBefore
  apply List.inj_on_of_nodup_map apart (perm.mem_iff.mp inLeft) inRight
  exact Nat.le_antisymm notAfter notBefore

theorem filter_native (distinct : registry.names.Nodup) (settings : Settings)
    (query : String) (dialect : Dialect) :
    ((all settings registry query dialect).filter fun candidate =>
        !candidate.converted) =
      (registry.serving dialect).map (native query dialect) := by
  rw [all_eq_filterMap distinct, Registry.serving, List.filter_filterMap,
    ← List.filterMap_eq_map, List.filterMap_filter]
  apply List.filterMap_congr
  intro store _
  unfold ofStore?
  split
  · rfl
  · split
    · rfl
    · rfl

theorem filter_converted (distinct : registry.names.Nodup)
    (settings : Settings) (query : String) (dialect : Dialect) :
    ((all settings registry query dialect).filter fun candidate =>
        candidate.converted) =
      if MayConvert settings query dialect then
        ((registry.serving .document).filter fun store =>
          !store.descriptor.serves .relational).map
            (conversion (Query.documentForm query))
      else [] := by
  rw [all_eq_filterMap distinct, List.filter_filterMap]
  split
  · rename_i may
    rw [Registry.serving, List.filter_filter, ← List.filterMap_eq_map,
      List.filterMap_filter]
    apply List.filterMap_congr
    intro store _
    obtain ⟨rfl, _⟩ := id may
    cases relational : store.descriptor.serves .relational with
    | true => simp [ofStore?, relational, native]
    | false =>
        cases documents : store.descriptor.serves .document with
        | true => simp [ofStore?, relational, documents, may, conversion]
        | false => simp [ofStore?, relational, documents]
  · rename_i never
    apply List.filterMap_eq_nil_iff.mpr
    intro store _
    cases serves : store.descriptor.serves dialect with
    | true => simp [ofStore?, serves, native]
    | false => simp [ofStore?, serves, never]

/-- The candidates are distinct stores in the order of their registration, each
in a dialect that it serves.  The stores of the query's dialect run the query
as it is.  Where its document form may be used, the stores that serve documents
and no relational queries run this form, and otherwise there are no others. -/
theorem candidates_by_position (distinct : registry.names.Nodup)
    (settings : Settings) (query : String) (dialect : Dialect) :
    ((all settings registry query dialect).map name).Nodup ∧
    ((all settings registry query dialect).Pairwise fun earlier later =>
      earlier.position registry < later.position registry) ∧
    (∀ candidate ∈ all settings registry query dialect,
      candidate.store ∈ registry.descriptors ∧
        candidate.store.serves candidate.dialect = true) ∧
    ((all settings registry query dialect).filter fun candidate =>
        !candidate.converted) =
      (registry.serving dialect).map (native query dialect) ∧
    ((all settings registry query dialect).filter fun candidate =>
        candidate.converted) =
      if MayConvert settings query dialect then
        ((registry.serving .document).filter fun store =>
          !store.descriptor.serves .relational).map
            (conversion (Query.documentForm query))
      else [] := by
  refine ⟨nodup_all distinct settings query dialect, ?_, ?_,
    filter_native distinct settings query dialect,
    filter_converted distinct settings query dialect⟩
  · rw [all_eq_filterMap distinct]
    exact filterMap_pairwise_position distinct settings query dialect
  · rw [all_eq_filterMap distinct]
    intro candidate member
    obtain ⟨store, inStores, found⟩ := List.mem_filterMap.mp member
    rw [store_of_ofStore? found]
    refine ⟨List.mem_map_of_mem inStores, ?_⟩
    rcases ofStore?_eq_some found with ⟨serves, rfl⟩ | ⟨_, _, serves, rfl⟩
    · exact serves
    · exact serves

/-- Stores of one dialect around a store of two. -/
def assorted : Registry := ⟨[
  .ofBackend (.single "mongo" .document) (.document []),
  .ofBackend ⟨"wide", [.document, .relational], .ofDialect .relational⟩
    (.relational []),
  .ofBackend (.single "redis" .keyValue) (.keyValue []),
  .ofBackend (.single "pg" .relational) (.relational [])]⟩

theorem candidates_by_position_assorted :
    assorted.names.Nodup ∧
    ((all .standard assorted "SELECT * FROM t" .relational).Pairwise
      fun earlier later =>
        earlier.position assorted < later.position assorted) ∧
    ((all .standard assorted "SELECT * FROM t" .relational).filter
        fun candidate => !candidate.converted) =
      [⟨⟨"wide", [.document, .relational], .ofDialect .relational⟩,
          "SELECT * FROM t", .relational, false⟩,
        ⟨.single "pg" .relational, "SELECT * FROM t", .relational, false⟩] ∧
    ((all .standard assorted "SELECT * FROM t" .relational).filter
        fun candidate => candidate.converted) =
      [⟨.single "mongo" .document, "db.t.find(\x7b\x7d)", .document, true⟩] := by
  have distinct : assorted.names.Nodup := by decide
  obtain ⟨_, increasing, _, natives, conversions⟩ :=
    candidates_by_position distinct .standard "SELECT * FROM t" .relational
  refine ⟨distinct, increasing, ?_, ?_⟩
  · rw [natives]
    rfl
  · rw [conversions]
    decide +kernel

end Candidate

end Polystore
