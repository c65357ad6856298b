import Polystore.Proofs.Json.RoundTrip
import Polystore.Query.DocumentForm

/-!
# Filters of conditions

A filter that was put together from conditions states these conditions again,
each once, in the order of their fields.  Conditions are added one by one: the
first condition of a field becomes its constraint, and every further one is
put beside the operators that are there.
-/

namespace Polystore

namespace Literal

/-- The literal stands in documents as it is. -/
def Exact : Literal → Prop
  | .real value => value.isFinite = true
  | _ => True

/-- The literal is no float. -/
def Discrete : Literal → Prop
  | .real _ => False
  | _ => True

theorem ofJson?_json {literal : Literal} (exact : literal.Exact) :
    ofJson? literal.json = some literal := by
  cases literal with
  | text value => rfl
  | truth value => rfl
  | integer value =>
      have inRange := And.intro value.minValue_le_toInt value.toInt_le
      simp only [json, ofJson?, inRange, decide_true, Bool.and_self, if_true,
        Int64.ofInt_toInt]
  | real value =>
      have finite : value.isFinite = true := exact
      simp only [json, Json.ofFloat, finite, if_true, ofJson?]

theorem json_ne_object (literal : Literal) (fields : Row) :
    literal.json ≠ .object fields := by
  cases literal with
  | text value => simp [json]
  | truth value => simp [json]
  | integer value => simp [json]
  | real value =>
      simp only [json, Json.ofFloat]
      split <;> simp

theorem plain_json {literal : Literal} (discrete : literal.Discrete) :
    literal.json.Plain := by
  cases literal with
  | text value => trivial
  | truth value => trivial
  | integer value =>
      have below := value.le_toInt
      have above := value.toInt_lt
      have signed : (Numeral.maxSigned : Int) = 2 ^ 63 - 1 := by decide
      have unsigned : (Numeral.maxUnsigned : Int) = 2 ^ 64 - 1 := by decide
      simp only [json, Json.Plain]
      omega
  | real value => exact absurd discrete (by simp [Discrete])

theorem levels_json (literal : Literal) : literal.json.levels = 0 := by
  cases literal with
  | text value => rfl
  | truth value => rfl
  | integer value => rfl
  | real value =>
      simp only [json, Json.ofFloat]
      split <;> rfl

end Literal

namespace Comparator

theorem ofOperatorKey?_operatorKey (comparator : Comparator) :
    ofOperatorKey? comparator.operatorKey = some comparator := by
  cases comparator <;> rfl

theorem operatorKey_startsWith (comparator : Comparator) :
    comparator.operatorKey.startsWith "$" = true := by
  cases comparator <;> decide +kernel

end Comparator

namespace DocumentFilter

/-- What a filter has for a field: a literal, or literals under operators. -/
inductive Constraint (allowed : Literal → Prop) : Json → Prop where
  | literal {value : Literal} :
      allowed value →
      Constraint allowed value.json
  | object {fields : Row} :
      Keyed.Ordered fields →
      areOperators fields = true →
      (∀ entry ∈ fields, ∃ value : Literal,
        allowed value ∧ entry.2 = value.json) →
      Constraint allowed (.object fields)

variable {allowed : Literal → Prop} {existing constraint : Json}

theorem operators_json (literal : Literal) :
    operators literal.json =
      [(Comparator.equal.operatorKey, literal.json)] := by
  unfold operators
  split
  · rename_i fields same
    exact absurd same (literal.json_ne_object fields)
  · rfl

theorem areOperators_operatorKey (comparator : Comparator) (value : Json) :
    areOperators [(comparator.operatorKey, value)] = true := by
  simp [areOperators, comparator.operatorKey_startsWith]

theorem Constraint.single {literal : Literal} (isAllowed : allowed literal)
    (comparator : Comparator) :
    Constraint allowed (.object [(comparator.operatorKey, literal.json)]) := by
  refine .object (List.pairwise_singleton _ _)
    (areOperators_operatorKey comparator literal.json) ?_
  intro entry member
  rw [List.mem_singleton.mp member]
  exact ⟨literal, isAllowed, rfl⟩

theorem Constraint.areOperators {fields : Row}
    (shaped : Constraint allowed (.object fields)) :
    areOperators fields = true := by
  generalize isObject : Json.object fields = value at shaped
  cases shaped with
  | literal _ => exact absurd isObject.symm (Literal.json_ne_object _ fields)
  | object _ areKeys _ =>
      cases isObject
      exact areKeys

/-- Every constraint can be put as an object of operators. -/
theorem Constraint.object_operators (shaped : Constraint allowed existing) :
    Constraint allowed (.object (operators existing)) := by
  cases shaped with
  | literal isAllowed =>
      rw [operators_json]
      exact .single isAllowed .equal
  | object ordered areKeys values =>
      rw [operators, if_pos areKeys]
      exact .object ordered areKeys values

theorem areOperators_insert {fields : Row} (areKeys : areOperators fields = true)
    (comparator : Comparator) (value : Json) :
    areOperators (fields.insert comparator.operatorKey value) = true := by
  apply List.all_eq_true.mpr
  intro entry member
  rcases Keyed.mem_insert member with isNew | old
  · subst isNew
    exact comparator.operatorKey_startsWith
  · exact List.all_eq_true.mp areKeys entry old

theorem Constraint.insert {fields : Row}
    (shaped : Constraint allowed (.object fields)) {literal : Literal}
    (isAllowed : allowed literal) (comparator : Comparator) :
    Constraint allowed
      (.object (fields.insert comparator.operatorKey literal.json)) := by
  generalize isObject : Json.object fields = value at shaped
  cases shaped with
  | literal _ => exact absurd isObject.symm (Literal.json_ne_object _ fields)
  | object ordered areKeys values =>
      cases isObject
      refine .object (ordered.insert _ _)
        (areOperators_insert areKeys comparator literal.json) ?_
      intro entry member
      rcases Keyed.mem_insert member with isNew | old
      · exact ⟨literal, isAllowed, by rw [isNew]⟩
      · exact values entry old

theorem Constraint.combine {condition : Condition}
    (isAllowed : allowed condition.value) {known : Option Json}
    (shaped : ∀ existing, known = some existing → Constraint allowed existing)
    (combined : combine condition known = .ok constraint) :
    Constraint allowed constraint := by
  cases known with
  | none =>
      unfold DocumentFilter.combine at combined
      simp only at combined
      split at combined
      · cases combined
        exact .literal isAllowed
      · cases combined
        exact .single isAllowed _
  | some existing =>
      simp only [DocumentFilter.combine] at combined
      split at combined
      · cases combined
      · cases combined
        exact (shaped existing rfl).object_operators.insert isAllowed _

theorem operatorCondition?_operatorKey (field : String)
    (comparator : Comparator) {literal : Literal} (exact : literal.Exact) :
    operatorCondition? field (comparator.operatorKey, literal.json) =
      some ⟨field, comparator, literal⟩ := by
  simp [operatorCondition?, Comparator.ofOperatorKey?_operatorKey,
    Literal.ofJson?_json exact]

theorem fieldConditions?_json (field : String) {literal : Literal}
    (exact : literal.Exact) :
    fieldConditions? (field, literal.json) =
      some [⟨field, .equal, literal⟩] := by
  unfold fieldConditions?
  split
  · rename_i fields same
    exact absurd same (literal.json_ne_object fields)
  · rw [Literal.ofJson?_json exact]
    rfl

theorem fieldConditions?_object (field : String) {fields : Row}
    (areKeys : areOperators fields = true) :
    fieldConditions? (field, .object fields) =
      fields.mapM (operatorCondition? field) :=
  if_pos areKeys

theorem fieldConditions?_operators (field : String)
    (exact : ∀ literal, allowed literal → literal.Exact)
    (shaped : Constraint allowed existing) :
    fieldConditions? (field, .object (operators existing)) =
      fieldConditions? (field, existing) := by
  cases shaped with
  | literal isAllowed =>
      have isExact := exact _ isAllowed
      rw [operators_json, fieldConditions?_json field isExact]
      rw [fieldConditions?_object _ (areOperators_operatorKey _ _)]
      simp [operatorCondition?_operatorKey field .equal isExact]
  | object _ areKeys _ => rw [operators, if_pos areKeys]

theorem fieldConditions?_first {condition : Condition}
    (exact : condition.value.Exact)
    (combined : combine condition none = .ok constraint) :
    fieldConditions? (condition.field, constraint) = some [condition] := by
  unfold combine at combined
  simp only at combined
  split at combined
  · rename_i isEqual
    cases combined
    rw [fieldConditions?_json condition.field exact, ← isEqual]
  · cases combined
    rw [fieldConditions?_object _ (areOperators_operatorKey _ _)]
    simp [operatorCondition?_operatorKey condition.field condition.comparator
      exact]

/-- A further condition of a field is put among those that are there. -/
theorem fieldConditions?_further {condition : Condition}
    (exact : ∀ literal, allowed literal → literal.Exact)
    (isAllowed : allowed condition.value)
    (shaped : Constraint allowed existing) {stated : List Condition}
    (states : fieldConditions? (condition.field, existing) = some stated)
    (combined : combine condition (some existing) = .ok constraint) :
    ∃ restated,
      fieldConditions? (condition.field, constraint) = some restated ∧
        restated.Perm (condition :: stated) := by
  rw [← fieldConditions?_operators _ exact shaped] at states
  simp only [combine] at combined
  split at combined
  · cases combined
  rename_i notContained
  cases combined
  have absent : (operators existing).get? condition.comparator.operatorKey =
      none := by
    simpa [Keyed.contains] using notContained
  obtain ⟨before, after, split, inserted⟩ :=
    Keyed.insert_of_get?_eq_none absent condition.value.json
  have restates := shaped.object_operators.insert isAllowed
    condition.comparator
  rw [fieldConditions?_object _ shaped.object_operators.areOperators,
    mapM_eq_some_iff, split, List.map_append] at states
  obtain ⟨front, back, rfl, isFront, isBack⟩ :=
    List.append_eq_map_iff.mp states
  refine ⟨front ++ condition :: back, ?_, List.perm_middle⟩
  have added := operatorCondition?_operatorKey condition.field
    condition.comparator (exact _ isAllowed)
  rw [fieldConditions?_object _ restates.areOperators, mapM_eq_some_iff,
    inserted, List.map_append, List.map_append, List.map_cons, List.map_cons,
    added, isFront, isBack]

/-- The filter is put together from literals that are allowed, and it states
the conditions. -/
structure States (allowed : Literal → Prop) (conditions : List Condition)
    (filter : Row) : Prop where
  ordered : Keyed.Ordered filter
  constraints : ∀ entry ∈ filter, Constraint allowed entry.2
  stated : ∃ parts : List (List Condition),
    filter.map fieldConditions? = parts.map some ∧
      parts.flatten.Perm conditions

theorem states_nil (allowed : Literal → Prop) : States allowed [] [] where
  ordered := Keyed.ordered_nil
  constraints := by simp
  stated := ⟨[], rfl, .nil⟩

/-- One part that gained a condition is all that changes. -/
theorem perm_flatten_of_perm {front back : List (List Condition)}
    {stated restated conditions : List Condition} {condition : Condition}
    (perm : (front ++ stated :: back).flatten.Perm conditions)
    (gained : restated.Perm (condition :: stated)) :
    (front ++ restated :: back).flatten.Perm (conditions ++ [condition]) := by
  rw [List.flatten_append, List.flatten_cons] at perm ⊢
  have ahead : (front.flatten ++ (restated ++ back.flatten)).Perm
      (condition :: (front.flatten ++ (stated ++ back.flatten))) :=
    ((gained.append_right _).append_left _).trans List.perm_middle
  have behind : (condition :: conditions).Perm (conditions ++ [condition]) :=
    (List.perm_append_singleton condition conditions).symm
  exact ahead.trans ((perm.cons condition).trans behind)

theorem States.known {conditions : List Condition} {filter : Row}
    (states : States allowed conditions filter) {field : String}
    {existing : Json} (found : filter.get? field = some existing) :
    Constraint allowed existing :=
  states.constraints _ (Keyed.mem_of_get?_eq_some found)

/-- With one more condition the filter states the conditions and that one. -/
theorem States.stated_insert {conditions : List Condition} {filter : Row}
    (states : States allowed conditions filter)
    (exact : ∀ literal, allowed literal → literal.Exact)
    {condition : Condition} (isAllowed : allowed condition.value)
    {constraint : Json}
    (combined : combine condition (filter.get? condition.field) =
      .ok constraint) :
    ∃ parts : List (List Condition),
      (filter.insert condition.field constraint).map fieldConditions? =
          parts.map some ∧
        parts.flatten.Perm (conditions ++ [condition]) := by
  obtain ⟨parts, isStated, perm⟩ := states.stated
  cases found : filter.get? condition.field with
  | none =>
      rw [found] at combined
      obtain ⟨before, after, split, inserted⟩ :=
        Keyed.insert_of_get?_eq_none found constraint
      rw [split, List.map_append] at isStated
      obtain ⟨front, back, rfl, isFront, isBack⟩ :=
        List.append_eq_map_iff.mp isStated
      refine ⟨front ++ [condition] :: back, ?_, ?_⟩
      · have first := fieldConditions?_first (exact _ isAllowed) combined
        rw [inserted]
        simp [first, isFront, isBack]
      · exact perm_flatten_of_perm (by simpa using perm)
          (List.Perm.refl [condition])
  | some existing =>
      rw [found] at combined
      obtain ⟨before, after, split, inserted⟩ :=
        states.ordered.insert_of_get?_eq_some found constraint
      rw [split, List.map_append] at isStated
      obtain ⟨front, rest, rfl, isFront, isRest⟩ :=
        List.append_eq_map_iff.mp isStated
      obtain ⟨stated, back, rfl, isStatedHere, isBack⟩ :=
        List.map_eq_cons_iff.mp isRest
      obtain ⟨restated, restates, gained⟩ :=
        fieldConditions?_further exact isAllowed (states.known found)
          isStatedHere.symm combined
      refine ⟨front ++ restated :: back, ?_, ?_⟩
      · rw [inserted]
        simp [restates, isFront, isBack]
      · exact perm_flatten_of_perm perm gained

theorem add_eq_ok {filter extended : Row} {condition : Condition}
    (added : add filter condition = .ok extended) :
    ∃ constraint,
      combine condition (filter.get? condition.field) = .ok constraint ∧
        extended = filter.insert condition.field constraint := by
  unfold add at added
  cases combined : combine condition (filter.get? condition.field) with
  | error reason => simp [combined, bind, Except.bind] at added
  | ok constraint =>
      rw [combined] at added
      cases added
      exact ⟨constraint, rfl, rfl⟩

theorem foldlM_add_eq_ok {filter final : Row} {condition : Condition}
    {conditions : List Condition}
    (built : (condition :: conditions).foldlM add filter = .ok final) :
    ∃ extended, add filter condition = .ok extended ∧
      conditions.foldlM add extended = .ok final := by
  rw [List.foldlM_cons] at built
  cases added : add filter condition with
  | error reason => simp [added, bind, Except.bind] at built
  | ok extended =>
      rw [added] at built
      exact ⟨extended, rfl, built⟩

theorem States.add {conditions : List Condition} {filter extended : Row}
    (states : States allowed conditions filter)
    (exact : ∀ literal, allowed literal → literal.Exact)
    {condition : Condition} (isAllowed : allowed condition.value)
    (added : add filter condition = .ok extended) :
    States allowed (conditions ++ [condition]) extended := by
  obtain ⟨constraint, combined, rfl⟩ := add_eq_ok added
  refine ⟨states.ordered.insert _ _, ?_,
    states.stated_insert exact isAllowed combined⟩
  intro entry member
  rcases Keyed.mem_insert member with isNew | old
  · rw [isNew]
    exact Constraint.combine isAllowed (fun _ => states.known) combined
  · exact states.constraints entry old

theorem States.foldlM {done conditions : List Condition}
    {filter final : Row} (states : States allowed done filter)
    (exact : ∀ literal, allowed literal → literal.Exact)
    (areAllowed : ∀ condition ∈ conditions, allowed condition.value)
    (built : conditions.foldlM DocumentFilter.add filter = .ok final) :
    States allowed (done ++ conditions) final := by
  induction conditions generalizing done filter with
  | nil =>
      cases built
      simpa using states
  | cons condition conditions induction =>
      obtain ⟨extended, added, restBuilt⟩ := foldlM_add_eq_ok built
      have next := states.add exact
        (areAllowed condition List.mem_cons_self) added
      have rest := induction next
        (fun other member => areAllowed other (List.mem_cons_of_mem _ member))
        restBuilt
      simpa using rest

theorem states_ofConditions {conditions : List Condition} {filter : Row}
    (exact : ∀ literal, allowed literal → literal.Exact)
    (areAllowed : ∀ condition ∈ conditions, allowed condition.value)
    (built : ofConditions conditions = .ok filter) :
    States allowed conditions filter := by
  have states := (states_nil allowed).foldlM exact areAllowed built
  simpa using states

theorem States.conditions? {conditions : List Condition} {filter : Row}
    (states : States allowed conditions filter) :
    ∃ read, DocumentFilter.conditions? (.object filter) = some read ∧
      read.Perm conditions := by
  obtain ⟨parts, isStated, perm⟩ := states.stated
  refine ⟨parts.flatten, ?_, perm⟩
  rw [DocumentFilter.conditions?, mapM_eq_some_iff.mpr isStated]
  rfl

theorem plainFields_of_forall {fields : Row}
    (plain : ∀ entry ∈ fields, entry.2.Plain) : Json.PlainFields fields := by
  induction fields with
  | nil => trivial
  | cons entry fields induction =>
      exact ⟨plain entry List.mem_cons_self,
        induction fun other member =>
          plain other (List.mem_cons_of_mem _ member)⟩

theorem levelsOfFields_le {fields : Row} {bound : Nat}
    (shallow : ∀ entry ∈ fields, entry.2.levels ≤ bound) :
    Json.levelsOfFields fields ≤ bound := by
  induction fields with
  | nil => exact Nat.zero_le bound
  | cons entry fields induction =>
      have rest := induction
        fun other member => shallow other (List.mem_cons_of_mem _ member)
      exact Nat.max_le.mpr ⟨shallow entry List.mem_cons_self, rest⟩

theorem Constraint.plain
    (shaped : Constraint Literal.Discrete constraint) :
    constraint.Plain ∧ constraint.levels ≤ 1 := by
  cases shaped with
  | literal discrete =>
      refine ⟨Literal.plain_json discrete, ?_⟩
      rw [Literal.levels_json]
      exact Nat.zero_le 1
  | object ordered _ values =>
      refine ⟨⟨ordered, plainFields_of_forall ?_⟩, ?_⟩
      · intro entry member
        obtain ⟨value, discrete, isValue⟩ := values entry member
        rw [isValue]
        exact Literal.plain_json discrete
      · refine Nat.succ_le_succ (levelsOfFields_le ?_)
        intro entry member
        obtain ⟨value, _, isValue⟩ := values entry member
        rw [isValue, Literal.levels_json]

theorem States.read_text {conditions : List Condition} {filter : Row}
    (states : States Literal.Discrete conditions filter) :
    Json.read (Json.object filter).text = .ok (.object filter) := by
  refine Json.read_text ⟨states.ordered, plainFields_of_forall ?_⟩ ?_
  · exact fun entry member => (states.constraints entry member).plain.1
  · have levels : Json.levelsOfFields filter ≤ 1 := levelsOfFields_le
      fun entry member => (states.constraints entry member).plain.2
    simp only [Json.levels]
    omega

end DocumentFilter

end Polystore
