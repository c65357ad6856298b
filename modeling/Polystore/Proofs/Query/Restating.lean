import Mathlib.Data.Prod.Lex
import Polystore.Proofs.Numeral.Rounding
import Polystore.Proofs.Query.Repetition

/-!
# Conditions that are stated again

A filter that has been read is put together again from its conditions.  The
conditions of a filter come in the order of their fields and operators, so the
new filter is read as the same conditions in the same order.  It constrains
the fields of the first one, except for those that had an object without
operators: no condition tells of them.
-/

namespace Polystore

namespace Json

mutual

/-- A value as documents have them: the fields of objects are in order, whole
numbers fit a word and floats are finite. -/
def Proper : Json → Prop
  | .null => True
  | .bool _ => True
  | .integer value =>
    -(Numeral.maxSigned + 1 : Int) ≤ value ∧ value ≤ Numeral.maxUnsigned
  | .float value => value.isFinite = true
  | .string _ => True
  | .array items => ProperItems items
  | .object fields => Keyed.Ordered fields ∧ ProperFields fields

def ProperItems : List Json → Prop
  | [] => True
  | item :: items => Proper item ∧ ProperItems items

def ProperFields : List (String × Json) → Prop
  | [] => True
  | (_, value) :: fields => Proper value ∧ ProperFields fields

end

theorem ProperFields.of_mem {fields : Row} (proper : ProperFields fields)
    {entry : String × Json} (member : entry ∈ fields) : entry.2.Proper := by
  induction fields with
  | nil => cases member
  | cons first fields induction =>
      rcases List.mem_cons.mp member with isFirst | later
      · rw [isFirst]
        exact proper.1
      · exact induction proper.2 later

def Ascending (value : Json) : Prop :=
  ∀ fields, value = .object fields → Keyed.Ordered fields

theorem Proper.ascending {value : Json} (proper : value.Proper) :
    value.Ascending := by
  rintro fields rfl
  exact proper.1

end Json

/-- The literal of a proper value stands in documents as it is. -/
theorem Literal.exact_of_ofJson? {value : Json} {literal : Literal}
    (proper : value.Proper) (read : ofJson? value = some literal) :
    literal.Exact := by
  cases value with
  | string text =>
      cases read
      trivial
  | bool truth =>
      cases read
      trivial
  | integer number =>
      obtain ⟨notBelow, notAbove⟩ := proper
      have signed : (Numeral.maxSigned : Int) = 2 ^ 63 - 1 := by decide
      have unsigned : (Numeral.maxUnsigned : Int) = 2 ^ 64 - 1 := by decide
      have least : Int64.minValue.toInt = -2 ^ 63 := by decide
      have greatest : Int64.maxValue.toInt = 2 ^ 63 - 1 := by decide
      rw [ofJson?, least, greatest] at read
      split at read
      · cases read
        trivial
      · rename_i notSigned
        cases read
        simp only [Bool.and_eq_true, decide_eq_true_eq, not_and] at notSigned
        obtain ⟨word, rfl⟩ : ∃ word : Nat, number = word :=
          Int.eq_ofNat_of_zero_le (by omega)
        exact Numeral.isFinite_ofInt (by omega) (by omega)
  | float number =>
      cases read
      exact proper
  | null | array | object => cases read

namespace Condition

/-- The first condition has the lower field, or the lower operator of the same
field. -/
def Precedes (left right : Condition) : Prop :=
  toLex (left.field, left.comparator.operatorKey) <
    toLex (right.field, right.comparator.operatorKey)

theorem Precedes.place_ne {left right : Condition}
    (precedes : left.Precedes right) : left.place ≠ right.place := by
  intro same
  obtain ⟨sameField, sameComparator⟩ := Prod.mk.inj same
  rw [Precedes, sameField, sameComparator] at precedes
  exact lt_irrefl _ precedes

theorem eq_of_perm {conditions others : List Condition}
    (perm : conditions.Perm others) (ascending : conditions.Pairwise Precedes)
    (othersAscending : others.Pairwise Precedes) : conditions = others := by
  apply List.Perm.eq_of_pairwise _ ascending othersAscending perm
  intro left right _ _ before after
  exact absurd after (lt_asymm before)

end Condition

namespace DocumentFilter

theorem operatorCondition?_eq_some {field : String}
    {operator : String × Json} {condition : Condition}
    (read : operatorCondition? field operator = some condition) :
    condition.field = field ∧
      condition.comparator.operatorKey = operator.1 ∧
      Literal.ofJson? operator.2 = some condition.value := by
  simp only [operatorCondition?, bind, Option.bind_eq_some_iff] at read
  obtain ⟨comparator, isComparator, literal, isLiteral, same⟩ := read
  cases same
  have sameKey := List.find?_some isComparator
  exact ⟨rfl, eq_of_beq sameKey, isLiteral⟩

/-- What is read from the constraint of a field. -/
structure Tells (field : String) (constraint : Json)
    (conditions : List Condition) : Prop where
  field : ∀ condition ∈ conditions, condition.field = field
  exact : constraint.Proper → ∀ condition ∈ conditions, condition.value.Exact
  ascending : constraint.Ascending → conditions.Pairwise Condition.Precedes
  nothing : conditions = [] ↔ constraint = .object []

theorem Tells.exists_iff {field : String} {constraint : Json}
    {conditions : List Condition} (tells : Tells field constraint conditions)
    (other : String) :
    (∃ condition ∈ conditions, condition.field = other) ↔
      field = other ∧ constraint ≠ .object [] := by
  rw [ne_eq, ← tells.nothing]
  constructor
  · rintro ⟨condition, member, rfl⟩
    exact ⟨(tells.field condition member).symm, List.ne_nil_of_mem member⟩
  · rintro ⟨rfl, some⟩
    obtain ⟨condition, member⟩ := List.exists_mem_of_ne_nil _ some
    exact ⟨condition, member, tells.field condition member⟩

theorem operatorKeys_eq {field : String} {operators : Row}
    {conditions : List Condition}
    (read : operators.map (operatorCondition? field) = conditions.map some) :
    conditions.map (·.comparator.operatorKey) = operators.map (·.1) := by
  induction operators generalizing conditions with
  | nil => rw [List.map_eq_nil_iff.mp read.symm, List.map_nil, List.map_nil]
  | cons operator operators induction =>
      obtain ⟨condition, rest, rfl, isCondition, areRest⟩ :=
        List.map_eq_cons_iff.mp read.symm
      obtain ⟨-, sameKey, -⟩ := operatorCondition?_eq_some isCondition.symm
      rw [List.map_cons, List.map_cons, sameKey, induction areRest.symm]

theorem tells_operators {field : String} {operators : Row}
    {conditions : List Condition}
    (read : operators.map (operatorCondition? field) = conditions.map some) :
    Tells field (.object operators) conditions := by
  have origin : ∀ condition ∈ conditions, ∃ operator ∈ operators,
      operatorCondition? field operator = some condition := by
    intro condition member
    have among : some condition ∈ operators.map (operatorCondition? field) := by
      rw [read]
      exact List.mem_map_of_mem member
    exact List.mem_map.mp among
  have sameField : ∀ condition ∈ conditions, condition.field = field := by
    intro condition member
    obtain ⟨operator, -, isCondition⟩ := origin condition member
    exact (operatorCondition?_eq_some isCondition).1
  have sameKeys := operatorKeys_eq read
  refine ⟨sameField, ?_, ?_, ?_⟩
  · intro proper condition member
    obtain ⟨operator, isOperator, isCondition⟩ := origin condition member
    obtain ⟨-, -, isLiteral⟩ := operatorCondition?_eq_some isCondition
    exact Literal.exact_of_ofJson? (proper.2.of_mem isOperator) isLiteral
  · intro ascending
    have keys : (operators.map (·.1)).Pairwise (· < ·) :=
      List.pairwise_map.mpr (ascending operators rfl)
    rw [← sameKeys, List.pairwise_map] at keys
    apply keys.imp_of_mem
    intro left right leftMember rightMember below
    rw [Condition.Precedes, sameField left leftMember,
      sameField right rightMember]
    exact Prod.Lex.toLex_lt_toLex.mpr (.inr ⟨rfl, below⟩)
  · rw [Json.object.injEq, ← List.map_eq_nil_iff, sameKeys,
      List.map_eq_nil_iff]

theorem tells_literal {field : String} {constraint : Json}
    {literal : Literal} (read : Literal.ofJson? constraint = some literal) :
    Tells field constraint [⟨field, .equal, literal⟩] where
  field := by simp
  exact := fun proper => by
    simpa using Literal.exact_of_ofJson? proper read
  ascending := fun _ => List.pairwise_singleton _ _
  nothing := by
    refine iff_of_false (by simp) ?_
    rintro rfl
    cases read

theorem tells_of_fieldConditions? {entry : String × Json}
    {conditions : List Condition}
    (read : fieldConditions? entry = some conditions) :
    Tells entry.1 entry.2 conditions := by
  obtain ⟨field, constraint⟩ := entry
  unfold fieldConditions? at read
  split at read
  · rename_i operators isObject
    cases isObject
    split at read
    · exact tells_operators (mapM_eq_some_iff.mp read)
    · cases read
  · obtain ⟨literal, isLiteral, rfl⟩ := Option.map_eq_some_iff.mp read
    exact tells_literal isLiteral

/-- What is read from all constraints of a filter. -/
structure TellsAll (fields : Row) (conditions : List Condition) : Prop where
  /-- The fields of the conditions are those with a constraint that is not an
  object without operators. -/
  field : ∀ field, (∃ condition ∈ conditions, condition.field = field) ↔
    ∃ constraint, (field, constraint) ∈ fields ∧ constraint ≠ .object []
  exact : Json.ProperFields fields →
    ∀ condition ∈ conditions, condition.value.Exact
  ascending : Keyed.Ordered fields → (∀ entry ∈ fields, entry.2.Ascending) →
    conditions.Pairwise Condition.Precedes

theorem tellsAll_nil : TellsAll [] [] where
  field := by simp
  exact := by simp
  ascending := fun _ _ => .nil

theorem TellsAll.cons {fields : Row} {rest : List Condition}
    (tellsRest : TellsAll fields rest) {entry : String × Json}
    {conditions : List Condition} (tells : Tells entry.1 entry.2 conditions) :
    TellsAll (entry :: fields) (conditions ++ rest) where
  field := by
    intro field
    have here := tells.exists_iff field
    have later := tellsRest.field field
    simp only [List.mem_append, List.mem_cons, or_and_right, exists_or,
      here, later]
    constructor
    · rintro (⟨rfl, some⟩ | behind)
      · exact .inl ⟨entry.2, rfl, some⟩
      · exact .inr behind
    · rintro (⟨constraint, rfl, some⟩ | behind)
      · exact .inl ⟨rfl, some⟩
      · exact .inr behind
  exact := by
    intro proper condition member
    rcases List.mem_append.mp member with here | later
    · exact tells.exact proper.1 condition here
    · exact tellsRest.exact proper.2 condition later
  ascending := by
    intro ordered ascending
    apply List.pairwise_append.mpr
    refine ⟨tells.ascending (ascending entry List.mem_cons_self),
      tellsRest.ascending ordered.tail
        fun other member => ascending other (List.mem_cons_of_mem _ member),
      ?_⟩
    intro condition here other later
    obtain ⟨constraint, isField, -⟩ :=
      (tellsRest.field other.field).mp ⟨other, later, rfl⟩
    rw [Condition.Precedes, tells.field condition here]
    exact Prod.Lex.toLex_lt_toLex.mpr (.inl (ordered.head_lt isField))

theorem tellsAll_of_conditions? {fields : Row} {conditions : List Condition}
    (read : conditions? (.object fields) = some conditions) :
    TellsAll fields conditions := by
  obtain ⟨parts, areRead, rfl⟩ := Option.map_eq_some_iff.mp read
  rw [mapM_eq_some_iff] at areRead
  clear read
  induction fields generalizing parts with
  | nil =>
      rw [List.map_eq_nil_iff.mp areRead.symm]
      exact tellsAll_nil
  | cons entry fields induction =>
      obtain ⟨part, others, rfl, isPart, areOthers⟩ :=
        List.map_eq_cons_iff.mp areRead.symm
      rw [List.flatten_cons]
      exact (induction others areOthers.symm).cons
        (tells_of_fieldConditions? isPart.symm)

theorem contains_of_add {filter extended : Row} {condition : Condition}
    (added : add filter condition = .ok extended) (field : String) :
    extended.contains field = true ↔
      field = condition.field ∨ filter.contains field = true := by
  obtain ⟨constraint, -, rfl⟩ := add_eq_ok added
  rw [Keyed.contains, Keyed.get?_insert]
  by_cases same : field = condition.field
  · simp [same]
  · simp [same, Keyed.contains]

theorem contains_of_foldlM {conditions : List Condition} {filter final : Row}
    (built : conditions.foldlM add filter = .ok final) (field : String) :
    final.contains field = true ↔
      filter.contains field = true ∨
        ∃ condition ∈ conditions, condition.field = field := by
  induction conditions generalizing filter with
  | nil =>
      cases built
      simp
  | cons condition conditions induction =>
      obtain ⟨extended, added, rest⟩ := foldlM_add_eq_ok built
      rw [induction rest, contains_of_add added, List.exists_mem_cons_iff,
        @eq_comm _ field, or_assoc, or_left_comm]

theorem contains_of_ofConditions {conditions : List Condition} {filter : Row}
    (built : ofConditions conditions = .ok filter) (field : String) :
    filter.contains field = true ↔
      ∃ condition ∈ conditions, condition.field = field := by
  rw [contains_of_foldlM built]
  simp [Keyed.contains, Keyed.get?]

theorem Constraint.ascending {allowed : Literal → Prop} {constraint : Json}
    (shaped : Constraint allowed constraint) : constraint.Ascending := by
  intro fields isObject
  cases shaped with
  | literal _ => exact absurd isObject (Literal.json_ne_object _ fields)
  | object ordered _ _ =>
      cases isObject
      exact ordered

/-- Conditions that ascend come back from their filter as they are. -/
theorem conditions?_of_ascending {conditions : List Condition}
    (ascending : conditions.Pairwise Condition.Precedes)
    (exact : ∀ condition ∈ conditions, condition.value.Exact) :
    ∃ filter, ofConditions conditions = .ok filter ∧
      conditions? (.object filter) = some conditions := by
  have distinct : (conditions.map Condition.place).Nodup :=
    List.pairwise_map.mpr (ascending.imp Condition.Precedes.place_ne)
  obtain ⟨filter, built⟩ := exists_ofConditions distinct
  have states := states_ofConditions (fun _ isExact => isExact) exact built
  -- What is read is a permutation that ascends as well, so it is the same list.
  obtain ⟨read, isRead, perm⟩ := states.conditions?
  have readAscending : read.Pairwise Condition.Precedes :=
    (tellsAll_of_conditions? isRead).ascending states.ordered
      fun entry member => (states.constraints entry member).ascending
  have same := Condition.eq_of_perm perm readAscending ascending
  exact ⟨filter, built, same ▸ isRead⟩

/-- The constraints that are lost are the objects without operators. -/
theorem contains_eq_iff {fields filter : Row}
    (distinct : (fields.map Prod.fst).Nodup)
    (constrains : ∀ field, filter.contains field = true ↔
      ∃ constraint, fields.get? field = some constraint ∧
        constraint ≠ .object []) :
    (∀ field, filter.contains field = fields.contains field) ↔
      ∀ entry ∈ fields, entry.2 ≠ .object [] := by
  constructor
  · intro same entry member
    have known := Keyed.get?_of_mem distinct member
    have isThere : fields.contains entry.1 = true := by
      rw [Keyed.contains, known]
      rfl
    obtain ⟨constraint, isConstraint, some⟩ :=
      (constrains entry.1).mp ((same entry.1).trans isThere)
    cases known.symm.trans isConstraint
    exact some
  · intro allSome field
    rw [Bool.eq_iff_iff, constrains, Keyed.contains,
      Option.isSome_iff_exists]
    apply exists_congr
    intro constraint
    apply and_iff_left_of_imp
    intro isConstraint
    exact allSome _ (Keyed.mem_of_get?_eq_some isConstraint)

end DocumentFilter

namespace Select

open DocumentFilter

/-- When a value is read as a filter, a selection with the conditions that
were read has a filter, and this is read as the same conditions in the same
order.  It constrains just the fields for which the value had something else
than an object without operators, so it constrains the same fields if and only
if there was no such object. -/
theorem filter_restates {value : Json} {conditions : List Condition}
    (proper : value.Proper)
    (read : DocumentFilter.conditions? value = some conditions)
    (source : String) (limit : Option Nat) :
    ∃ fields filter : Row, value = .object fields ∧
      (⟨source, conditions, limit⟩ : Select).filter = .ok (.object filter) ∧
      DocumentFilter.conditions? (.object filter) = some conditions ∧
      (∀ field, filter.contains field = true ↔
        ∃ constraint, fields.get? field = some constraint ∧
          constraint ≠ .object []) ∧
      ((∀ field, filter.contains field = fields.contains field) ↔
        ∀ entry ∈ fields, entry.2 ≠ .object []) := by
  cases value with
  | object members =>
      let fields : Row := members
      have tells : TellsAll fields conditions := tellsAll_of_conditions? read
      have distinct : (fields.map Prod.fst).Nodup := proper.1.nodup_keys
      obtain ⟨filter, built, restates⟩ := conditions?_of_ascending
        (tells.ascending proper.1
          fun entry member => (proper.2.of_mem member).ascending)
        (tells.exact proper.2)
      have constrains : ∀ field, filter.contains field = true ↔
          ∃ constraint, fields.get? field = some constraint ∧
            constraint ≠ .object [] := by
        intro field
        rw [contains_of_ofConditions built, tells.field]
        apply exists_congr
        intro constraint
        apply and_congr_left
        intro _
        exact ⟨Keyed.get?_of_mem distinct, Keyed.mem_of_get?_eq_some⟩
      have isFilter : (⟨source, conditions, limit⟩ : Select).filter =
          .ok (.object filter) := by
        rw [Select.filter, built]
        rfl
      exact ⟨fields, filter, rfl, isFilter, restates, constrains,
        contains_eq_iff distinct constrains⟩
  | null | bool | integer | float | string | array => cases read

/-- Two operators with a number beyond the signed words, an object without
operators and a plain value. -/
def sparse : Row :=
  [("a", .object [("$eq", .integer 9223372036854775808),
      ("$lt", .string "$x")]),
    ("b", .object []), ("c", .float 2.0)]

def sparseConditions : List Condition :=
  [⟨"a", .equal, .real (Float.ofInt 9223372036854775808)⟩,
    ⟨"a", .less, .text "$x"⟩, ⟨"c", .equal, .real 2.0⟩]

theorem filter_restates_sparse :
    (Json.object sparse).Proper ∧
      DocumentFilter.conditions? (.object sparse) = some sparseConditions ∧
      ∃ filter : Row,
        (⟨"t", sparseConditions, none⟩ : Select).filter =
            .ok (.object filter) ∧
          DocumentFilter.conditions? (.object filter) =
            some sparseConditions ∧
          filter.contains "a" = true ∧ filter.contains "b" = false := by
  have proper : (Json.object sparse).Proper := by
    have finite : Float.isFinite 2.0 = true := by decide +kernel
    simp only [Json.Proper, Json.ProperFields, sparse, finite,
      Keyed.Ordered]
    decide
  have read : DocumentFilter.conditions? (.object sparse) =
      some sparseConditions := by
    decide +kernel
  obtain ⟨fields, filter, isFields, isFilter, restates, constrains, -⟩ :=
    filter_restates proper read "t" none
  cases isFields
  refine ⟨proper, read, filter, isFilter, restates, ?_, ?_⟩
  · exact (constrains "a").mpr ⟨_, rfl, by simp⟩
  · rw [← Bool.not_eq_true, constrains]
    rintro ⟨constraint, isConstraint, some⟩
    cases isConstraint
    exact some rfl

/-- An object without operators is read, as no condition at all: the filter
that is put together again has no constraint, and every row satisfies it. -/
theorem filter_drops_empty_constraint :
    let value := Json.object [("a", .object [])]
    value.Proper ∧ DocumentFilter.conditions? value = some [] ∧
      (⟨"t", [], none⟩ : Select).filter = .ok (.object []) ∧
      Keyed.contains "a" ([] : Row) = false ∧
      ∀ row, Condition.allHold [] row = true := by
  intro value
  refine ⟨?_, rfl, rfl, rfl, fun _ => rfl⟩
  simp [value, Json.Proper, Json.ProperFields, Keyed.Ordered]

end Select

end Polystore
