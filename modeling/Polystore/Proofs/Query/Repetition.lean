import Polystore.Proofs.Query.DocumentForm

/-!
# Conditions that repeat each other

A filter has one place for each field and comparator.  It is put together from
conditions exactly when no two of them need the same place, and the first one
that finds its place taken is reported.  In whatever order the conditions of
a field come, and whether the field started with a plain value or with an
operator, the filter then states all of them.
-/

namespace Polystore

/-- Where a filter has the literal of a condition. -/
def Condition.place (condition : Condition) : String × Comparator :=
  (condition.field, condition.comparator)

/-- The condition is the first one whose place is taken. -/
def Condition.FirstRepeat (conditions : List Condition)
    (condition : Condition) : Prop :=
  ∃ before after, conditions = before ++ condition :: after ∧
    (before.map place).Nodup ∧ condition.place ∈ before.map place

theorem Comparator.operatorKey_inj {comparator other : Comparator} :
    comparator.operatorKey = other.operatorKey ↔ comparator = other := by
  constructor
  · intro sameKey
    have read := ofOperatorKey?_operatorKey comparator
    rw [sameKey, ofOperatorKey?_operatorKey] at read
    exact (Option.some.inj read).symm
  · exact congrArg operatorKey

namespace DocumentFilter

/-- The operators that the constraint of a field has so far. -/
def present : Option Json → Row
  | none => []
  | some existing => operators existing

theorem areOperators_operators (value : Json) :
    areOperators (operators value) = true := by
  unfold operators
  split
  · split
    · assumption
    · exact areOperators_operatorKey .equal _
  · exact areOperators_operatorKey .equal _

theorem operators_object {fields : Row}
    (areKeys : areOperators fields = true) :
    operators (.object fields) = fields :=
  if_pos areKeys

/-- A condition is refused when its operator is there, and put beside the
operators that are there otherwise. -/
theorem combine_cases (condition : Condition) (known : Option Json) :
    ((present known).contains condition.comparator.operatorKey = true ∧
      combine condition known = .error (.repeatedOperator
        condition.comparator.operatorKey condition.field)) ∨
    ((present known).contains condition.comparator.operatorKey = false ∧
      ∃ constraint, combine condition known = .ok constraint ∧
        operators constraint = (present known).insert
          condition.comparator.operatorKey condition.value.json) := by
  cases known with
  | none =>
      right
      refine ⟨rfl, ?_⟩
      unfold combine
      simp only
      split
      · rename_i isEqual
        refine ⟨_, rfl, ?_⟩
        rw [operators_json, isEqual]
        rfl
      · refine ⟨_, rfl, ?_⟩
        rw [operators_object (areOperators_operatorKey _ _)]
        rfl
  | some existing =>
      unfold combine
      simp only
      split
      · rename_i taken
        exact .inl ⟨taken, rfl⟩
      · rename_i notTaken
        right
        refine ⟨eq_false_of_ne_true notTaken, _, rfl, ?_⟩
        exact operators_object
          (areOperators_insert (areOperators_operators existing) _ _)

/-- The operators of the filter are those of the conditions. -/
def Places (conditions : List Condition) (filter : Row) : Prop :=
  ∀ field comparator,
    (present (filter.get? field)).contains
        (Comparator.operatorKey comparator) = true ↔
      (field, comparator) ∈ conditions.map Condition.place

variable {done : List Condition} {filter : Row}

theorem places_nil : Places [] [] := by
  intro field comparator
  exact iff_of_false (by simp [present, Keyed.contains]) (by simp)

theorem Places.insert (places : Places done filter) {condition : Condition}
    {constraint : Json}
    (placed : operators constraint =
      (present (filter.get? condition.field)).insert
        condition.comparator.operatorKey condition.value.json) :
    Places (done ++ [condition])
      (filter.insert condition.field constraint) := by
  intro field comparator
  have known := places field comparator
  rw [List.map_append, List.mem_append, ← known, List.map_singleton,
    List.mem_singleton, Keyed.get?_insert]
  by_cases sameField : field = condition.field
  · subst sameField
    rw [if_pos rfl, present, placed, Keyed.contains, Keyed.get?_insert]
    by_cases sameComparator : comparator = condition.comparator
    · simp [sameComparator, Condition.place]
    · have otherKey : comparator.operatorKey ≠
          condition.comparator.operatorKey := fun sameKey =>
        sameComparator (Comparator.operatorKey_inj.mp sameKey)
      simp [otherKey, sameComparator, Condition.place, Keyed.contains]
  · simp [sameField, Condition.place]

theorem Places.add_cases (places : Places done filter)
    (condition : Condition) :
    (condition.place ∈ done.map Condition.place ∧
      add filter condition = .error (.repeatedOperator
        condition.comparator.operatorKey condition.field)) ∨
    (condition.place ∉ done.map Condition.place ∧
      ∃ extended, add filter condition = .ok extended ∧
        Places (done ++ [condition]) extended) := by
  have taken := places condition.field condition.comparator
  rcases combine_cases condition (filter.get? condition.field) with
    ⟨isThere, refused⟩ | ⟨isFree, constraint, combined, placed⟩
  · left
    refine ⟨taken.mp isThere, ?_⟩
    rw [add, refused]
    rfl
  · right
    refine ⟨?_, filter.insert condition.field constraint, ?_,
      places.insert placed⟩
    · intro member
      have isThere := taken.mpr member
      rw [isFree] at isThere
      cases isThere
    · rw [add, combined]
      rfl

/-- Conditions are added up to the first one whose place is taken. -/
theorem Places.foldlM_cases (places : Places done filter)
    (distinct : (done.map Condition.place).Nodup)
    (conditions : List Condition) :
    (((done ++ conditions).map Condition.place).Nodup ∧
      ∃ final, conditions.foldlM add filter = .ok final) ∨
    ∃ condition,
      Condition.FirstRepeat (done ++ conditions) condition ∧
        conditions.foldlM add filter = .error (.repeatedOperator
          condition.comparator.operatorKey condition.field) := by
  induction conditions generalizing done filter with
  | nil =>
      left
      rw [List.append_nil]
      exact ⟨distinct, filter, rfl⟩
  | cons condition conditions induction =>
      rcases places.add_cases condition with
        ⟨taken, refused⟩ | ⟨free, extended, added, next⟩
      · right
        refine ⟨condition, ⟨done, conditions, rfl, distinct, taken⟩, ?_⟩
        rw [List.foldlM_cons, refused]
        rfl
      · have stillDistinct :
            ((done ++ [condition]).map Condition.place).Nodup := by
          rw [List.map_append, List.map_singleton, List.nodup_append]
          refine ⟨distinct, List.pairwise_singleton _ _, ?_⟩
          rintro place member _ isLast rfl
          exact free (List.mem_singleton.mp isLast ▸ member)
        have rest := induction next stillDistinct
        rw [List.append_assoc, List.singleton_append] at rest
        rw [List.foldlM_cons, added]
        exact rest

theorem not_nodup_of_firstRepeat {conditions : List Condition}
    {condition : Condition}
    (isFirst : Condition.FirstRepeat conditions condition) :
    ¬(conditions.map Condition.place).Nodup := by
  obtain ⟨before, after, rfl, -, taken⟩ := isFirst
  intro distinct
  rw [List.map_append, List.map_cons, List.nodup_append] at distinct
  exact distinct.2.2 _ taken _ List.mem_cons_self rfl

theorem ofConditions_cases (conditions : List Condition) :
    ((conditions.map Condition.place).Nodup ∧
      ∃ filter, ofConditions conditions = .ok filter) ∨
    ∃ condition, Condition.FirstRepeat conditions condition ∧
      ofConditions conditions = .error (.repeatedOperator
        condition.comparator.operatorKey condition.field) :=
  places_nil.foldlM_cases List.nodup_nil conditions

theorem exists_ofConditions {conditions : List Condition}
    (distinct : (conditions.map Condition.place).Nodup) :
    ∃ filter, ofConditions conditions = .ok filter := by
  rcases ofConditions_cases conditions with
    ⟨-, built⟩ | ⟨condition, isFirst, -⟩
  · exact built
  · exact absurd distinct (not_nodup_of_firstRepeat isFirst)

end DocumentFilter

namespace Select

open DocumentFilter

/-- A selection has no filter exactly when two of its conditions have the same
field and comparator, and the first condition that repeats an earlier one is
reported.  Otherwise the filter states the conditions of the selection in some
order, in which the same rows satisfy them. -/
theorem filter_states_conditions (select : Select)
    (exact : ∀ condition ∈ select.conditions, condition.value.Exact) :
    ((∃ reason, select.filter = .error reason) ↔
      ¬(select.conditions.map Condition.place).Nodup) ∧
    (∀ reason, select.filter = .error reason →
      ∃ condition, Condition.FirstRepeat select.conditions condition ∧
        reason = .repeatedOperator condition.comparator.operatorKey
          condition.field) ∧
    ((select.conditions.map Condition.place).Nodup →
      ∃ filter stated, select.filter = .ok filter ∧
        DocumentFilter.conditions? filter = some stated ∧
        stated.Perm select.conditions ∧
        ∀ row, Condition.allHold stated row = select.holds row) := by
  rcases ofConditions_cases select.conditions with
    ⟨distinct, fields, built⟩ | ⟨condition, isFirst, refused⟩
  · have isFilter : select.filter = .ok (.object fields) := by
      rw [Select.filter, built]
      rfl
    refine ⟨?_, ?_, ?_⟩
    · refine iff_of_false ?_ (not_not_intro distinct)
      rintro ⟨reason, refused⟩
      cases isFilter.symm.trans refused
    · intro reason refused
      cases isFilter.symm.trans refused
    · intro _
      obtain ⟨stated, states, perm⟩ := (states_ofConditions
        (fun _ isExact => isExact) exact built).conditions?
      refine ⟨.object fields, stated, isFilter, states, perm, ?_⟩
      intro row
      rw [Condition.allHold_perm perm]
      rfl
  · have repeated := not_nodup_of_firstRepeat isFirst
    have isRefused : select.filter = .error (.repeatedOperator
        condition.comparator.operatorKey condition.field) := by
      rw [Select.filter, refused]
      rfl
    refine ⟨iff_of_true ⟨_, isRefused⟩ repeated, ?_, fun distinct =>
      absurd distinct repeated⟩
    intro reason isReason
    cases isRefused.symm.trans isReason
    exact ⟨condition, isFirst, rfl⟩

/-- A field that starts with an operator and one that starts with a value, a
text that looks like an operator, and a float that is whole. -/
def mixed : Select where
  source := "t"
  conditions :=
    [⟨"n", .greater, .real 1.5⟩, ⟨"m", .equal, .text "$ne"⟩,
      ⟨"n", .equal, .real 3.0⟩, ⟨"m", .different, .integer 3⟩,
      ⟨"n", .atMost, .integer 9⟩]
  limit := none

theorem filter_states_conditions_mixed :
    (∀ condition ∈ mixed.conditions, condition.value.Exact) ∧
      (mixed.conditions.map Condition.place).Nodup ∧
      ∃ filter stated, mixed.filter = .ok filter ∧
        DocumentFilter.conditions? filter = some stated ∧
        stated.Perm mixed.conditions ∧
        ∀ row, Condition.allHold stated row = mixed.holds row := by
  have exact : ∀ condition ∈ mixed.conditions, condition.value.Exact := by
    simp only [mixed, List.forall_mem_cons]
    refine ⟨?_, trivial, ?_, trivial, trivial, by simp⟩
    · show Float.isFinite 1.5 = true
      decide +kernel
    · show Float.isFinite 3.0 = true
      decide +kernel
  have distinct : (mixed.conditions.map Condition.place).Nodup := by
    decide
  exact ⟨exact, distinct,
    (filter_states_conditions mixed exact).2.2 distinct⟩

end Select

end Polystore
