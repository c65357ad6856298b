import Mathlib.Algebra.Ring.Nat
import Polystore.History.Store
import Polystore.Proofs.Keyed

/-!
# Statistics of what a query finds

A query and the statistics go through the records separately, yet they tell of
the same ones: those that satisfy everything the filter sets.  Each of these
records counts for its store and for no other one, so the figures of the stores
add up to those of the whole.
-/

namespace Polystore

namespace Text

theorem occursIn_iff_infix {needle text : List Char} :
    occursIn needle text = true ↔ needle <:+: text := by
  induction text with
  | nil => rw [occursIn, List.isEmpty_iff, List.infix_nil]
  | cons c text induction =>
      rw [occursIn, Bool.or_eq_true, List.isPrefixOf_iff_prefix, induction,
        List.infix_cons_iff]

end Text

theorem perm_flatMap_filter {α κ : Type} [BEq κ] [LawfulBEq κ] (key : α → κ)
    {keys : List κ} (distinct : keys.Nodup) {items : List α}
    (covered : ∀ item ∈ items, key item ∈ keys) :
    (keys.flatMap fun part => items.filter fun item => key item == part).Perm
      items := by
  induction keys generalizing items with
  | nil =>
      have none : items = [] := by
        apply List.eq_nil_iff_forall_not_mem.mpr
        intro item member
        cases covered item member
      rw [none]
      exact .refl _
  | cons first keys induction =>
      obtain ⟨isNew, others⟩ := List.nodup_cons.mp distinct
      let rest := items.filter fun item => !(key item == first)
      have restCovered : ∀ item ∈ rest, key item ∈ keys := by
        intro item member
        obtain ⟨isItem, notFirst⟩ := List.mem_filter.mp member
        rcases List.mem_cons.mp (covered item isItem) with isFirst | isOther
        · simp [isFirst] at notFirst
        · exact isOther
      have sameParts : ∀ part ∈ keys,
          (items.filter fun item => key item == part) =
            rest.filter fun item => key item == part := by
        intro part member
        rw [List.filter_filter]
        apply List.filter_congr
        intro item _
        by_cases isPart : key item = part
        · have notFirst : part ≠ first := fun same => isNew (same ▸ member)
          simp [isPart, notFirst]
        · simp [isPart]
      rw [List.flatMap_cons, List.flatMap_congr sameParts]
      exact ((induction others restCovered).append_left _).trans
        (List.filter_append_perm _ items)

namespace RecordFilter

/-- The record satisfies everything that the filter sets about a record. -/
structure Admits (filter : RecordFilter) (record : ExecutionRecord) : Prop where
  store : ∀ name ∈ filter.store, record.store = name
  /-- It is not from before the instant. -/
  since : ∀ instant ∈ filter.since, record.timestamp.lt instant = false
  /-- In lower case, the text stands within the caller's text. -/
  contains : ∀ needle ∈ filter.contains,
    Text.lower needle.toList <:+: Text.lower record.queryText.toList

theorem accepts_iff_admits {filter : RecordFilter} {record : ExecutionRecord} :
    filter.accepts record = true ↔ filter.Admits record := by
  rw [accepts, Bool.and_eq_true, Bool.and_eq_true, Option.all_eq_true,
    Option.all_eq_true, Option.all_eq_true]
  simp only [beq_iff_eq, Bool.not_eq_true', occurs, Text.occursIn_iff_infix]
  constructor
  · rintro ⟨⟨store, since⟩, contains⟩
    exact ⟨store, since, contains⟩
  · rintro ⟨store, since, contains⟩
    exact ⟨⟨store, since⟩, contains⟩

instance (filter : RecordFilter) (record : ExecutionRecord) :
    Decidable (filter.Admits record) :=
  decidable_of_iff _ accepts_iff_admits

theorem decide_admits (filter : RecordFilter) :
    (fun record => decide (filter.Admits record)) = filter.accepts := by
  funext record
  rw [Bool.eq_iff_iff, decide_eq_true_iff, accepts_iff_admits]

def unlimited (filter : RecordFilter) : RecordFilter :=
  { filter with limit := none }

def forStore (filter : RecordFilter) (store : String) : RecordFilter :=
  { filter with store := some store }

theorem accepts_forStore {filter : RecordFilter} {store : String}
    (free : ∀ name ∈ filter.store, store = name) (record : ExecutionRecord) :
    (filter.forStore store).accepts record =
      (record.store == store && filter.accepts record) := by
  by_cases same : record.store = store
  · subst same
    have passes : (filter.store.all fun name => record.store == name) = true := by
      rw [Option.all_eq_true]
      intro name isSet
      rw [free name isSet, beq_self_eq_true]
    simp only [accepts, forStore, Option.all_some, beq_self_eq_true, passes,
      Bool.true_and]
  · have differs : (record.store == store) = false :=
      beq_eq_false_iff_ne.mpr same
    simp only [accepts, forStore, Option.all_some, differs, Bool.false_and]

end RecordFilter

namespace Statistics

theorem mem_storesOf (records : List ExecutionRecord) (store : String) :
    store ∈ storesOf records ↔ store ∈ records.map (·.store) := by
  rw [storesOf, Keyed.mem_keys_ofList, List.map_map]
  rfl

theorem nodup_storesOf (records : List ExecutionRecord) :
    (storesOf records).Nodup :=
  (Keyed.ordered_ofList _).nodup_keys

theorem keys_perStore (records : List ExecutionRecord) :
    (ofRecords records).perStore.keys = storesOf records := by
  simp only [ofRecords, Keyed.keys, List.map_map, Function.comp_def,
    List.map_id']

theorem ordered_perStore (records : List ExecutionRecord) :
    (ofRecords records).perStore.Ordered := by
  have ascending := Keyed.ordered_ofList
    (records.map fun record => (record.store, ()))
  exact List.pairwise_map.mpr (List.pairwise_map.mpr ascending)

theorem get?_perStore (records : List ExecutionRecord) (store : String) :
    (ofRecords records).perStore.get? store =
      if store ∈ records.map (·.store) then
        some (.ofRecords (records.filter fun record => record.store == store))
      else none := by
  have found := Keyed.get?_map (fun store (_ : Unit) =>
      Figures.ofRecords (records.filter fun record => record.store == store))
    store (Keyed.ofList (records.map fun record => (record.store, ())))
  have isMap : (ofRecords records).perStore =
      (Keyed.ofList (records.map fun record => (record.store, ()))).map
        fun entry => (entry.1, Figures.ofRecords
          (records.filter fun record => record.store == entry.1)) := by
    simp [ofRecords, storesOf, Keyed.keys]
  rw [isMap, found]
  have listed := mem_storesOf records store
  rw [storesOf, ← Keyed.contains_iff_mem_keys, Keyed.contains] at listed
  by_cases occurs : store ∈ records.map (·.store)
  · obtain ⟨⟨⟩, isSome⟩ := Option.isSome_iff_exists.mp (listed.mpr occurs)
    rw [isSome, if_pos occurs]
    rfl
  · rw [if_neg occurs, Option.not_isSome_iff_eq_none.mp (mt listed.mp occurs)]
    rfl

/-- Every record counts for one store. -/
theorem sum_perStore (records : List ExecutionRecord) :
    ((ofRecords records).perStore.values.map (·.count)).sum =
        records.length ∧
      ((ofRecords records).perStore.values.map (·.successes)).sum =
        (records.filter (·.outcome.success)).length := by
  have parts := perm_flatMap_filter ExecutionRecord.store
    (nodup_storesOf records) (fun record (member : record ∈ records) =>
      (mem_storesOf records _).mpr (List.mem_map_of_mem member))
  constructor
  · rw [← parts.length_eq, List.length_flatMap]
    simp [ofRecords, Keyed.values, Figures.ofRecords, Function.comp_def]
  · rw [← (parts.filter (·.outcome.success)).length_eq, List.filter_flatMap,
      List.length_flatMap]
    simp [ofRecords, Keyed.values, Figures.ofRecords, Function.comp_def]

end Statistics

namespace History

variable (history : History) (filter : RecordFilter)

theorem query_unlimited :
    history.query filter.unlimited =
      (history.records.filter filter.accepts).reverse := by
  rw [List.filter_reverse.symm]
  rfl

theorem query_eq_take :
    history.query filter =
      let found := history.query filter.unlimited
      found.take (filter.limit.getD found.length) := by
  cases isLimit : filter.limit with
  | none =>
      have unlimited : filter.unlimited = filter := by
        rw [RecordFilter.unlimited, ← isLimit]
      simp [unlimited]
  | some limit =>
      rw [query, isLimit]
      rfl

theorem statistics_forStore {store : String}
    (occurs : store ∈ (history.records.filter filter.accepts).map (·.store)) :
    (history.statistics (filter.forStore store)).overall =
      .ofRecords ((history.records.filter filter.accepts).filter
        fun record => record.store == store) := by
  obtain ⟨record, member, rfl⟩ := List.mem_map.mp occurs
  have admitted := RecordFilter.accepts_iff_admits.mp
    (List.mem_filter.mp member).2
  have same := funext (RecordFilter.accepts_forStore admitted.store)
  rw [statistics, Statistics.ofRecords, same, List.filter_filter]

/-- The statistics tell of the records that a query without limit finds: they
count them and the successful ones among them, for all stores and for each store
that occurs, whose figures are those of asking for this store alone. -/
theorem statistics_of_query :
    let found := history.query filter.unlimited
    let statistics := history.statistics filter
    statistics = history.statistics filter.unlimited ∧
      history.query filter =
        found.take (filter.limit.getD found.length) ∧
      found = (history.records.filter (filter.Admits ·)).reverse ∧
      statistics.overall.count = found.length ∧
      statistics.overall.successes =
        (found.filter (·.outcome.success)).length ∧
      statistics.perStore.Ordered ∧
      (∀ store, store ∈ statistics.perStore.keys ↔
        store ∈ found.map (·.store)) ∧
      (statistics.perStore.values.map (·.count)).sum =
        statistics.overall.count ∧
      (statistics.perStore.values.map (·.successes)).sum =
        statistics.overall.successes ∧
      ∀ store, statistics.perStore.get? store =
        if store ∈ found.map (·.store) then
          some (history.statistics (filter.forStore store)).overall
        else none := by
  intro found statistics
  have isFound : found = (history.records.filter filter.accepts).reverse :=
    history.query_unlimited filter
  have stores : ∀ store, store ∈ found.map (·.store) ↔
      store ∈ (history.records.filter filter.accepts).map (·.store) := by
    intro store
    rw [isFound, List.map_reverse, List.mem_reverse]
  obtain ⟨counts, successes⟩ :=
    Statistics.sum_perStore (history.records.filter filter.accepts)
  refine ⟨rfl, history.query_eq_take filter, ?_, ?_, ?_,
    Statistics.ordered_perStore _, ?_, counts, successes, ?_⟩
  · rw [isFound, RecordFilter.decide_admits]
  · rw [isFound, List.length_reverse]
    rfl
  · rw [isFound, List.filter_reverse, List.length_reverse]
    rfl
  · intro store
    rw [stores, ← Statistics.mem_storesOf, ← Statistics.keys_perStore]
    rfl
  · intro store
    have figures := Statistics.get?_perStore
      (history.records.filter filter.accepts) store
    by_cases occurs : store ∈
        (history.records.filter filter.accepts).map (·.store)
    · rw [if_pos ((stores store).mpr occurs),
        history.statistics_forStore filter occurs]
      rw [if_pos occurs] at figures
      exact figures
    · rw [if_neg (mt (stores store).mp occurs)]
      rw [if_neg occurs] at figures
      exact figures

end History

end Polystore
