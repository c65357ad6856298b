import Polystore.Query.Select

/-!
# Document filters

Conditions as a document store states them: a field equals a value, or satisfies
each operator of an object of operators.  Reading a filter gives back the
conditions that it states.
-/

namespace Polystore.DocumentFilter

def areOperators (fields : Row) : Bool :=
  fields.all fun (key, _) => key.startsWith "$"

/-- A constraint as an object of operators; a plain value stands for equality
with it. -/
def operators : Json → Row
  | .object fields =>
    if areOperators fields then fields
    else [(Comparator.equal.operatorKey, .object fields)]
  | value => [(Comparator.equal.operatorKey, value)]

/-- A condition together with the constraint that its field has so far. -/
def combine (condition : Condition) : Option Json → Except Unsupported Json
  | none =>
    match condition.comparator with
    | .equal => .ok condition.value.json
    | comparator =>
      .ok (.object [(comparator.operatorKey, condition.value.json)])
  | some existing =>
    let key := condition.comparator.operatorKey
    let present := operators existing
    if present.contains key then .error (.repeatedOperator key condition.field)
    else .ok (.object (present.insert key condition.value.json))

def add (filter : Row) (condition : Condition) : Except Unsupported Row := do
  let constraint ← combine condition (filter.get? condition.field)
  return filter.insert condition.field constraint

/-- The filter that states the conditions.  No field may have one operator
twice. -/
def ofConditions (conditions : List Condition) : Except Unsupported Row :=
  conditions.foldlM add []

/-- The condition of one operator of a field. -/
def operatorCondition? (field : String) (operator : String × Json) :
    Option Condition := do
  let comparator ← Comparator.ofOperatorKey? operator.1
  let value ← Literal.ofJson? operator.2
  return ⟨field, comparator, value⟩

/-- The conditions of one field. -/
def fieldConditions? (constraint : String × Json) : Option (List Condition) :=
  match constraint.2 with
  | .object fields =>
    if areOperators fields then fields.mapM (operatorCondition? constraint.1)
    else none
  | value =>
    (Literal.ofJson? value).map fun literal => [⟨constraint.1, .equal, literal⟩]

/-- The conditions that a document value states as a filter. -/
def conditions? : Json → Option (List Condition)
  | .object fields => (fields.mapM fieldConditions?).map List.flatten
  | _ => none

end Polystore.DocumentFilter
