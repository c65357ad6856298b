import Polystore.Query.Literal

/-!
# Conditions

A condition compares one field of a row with a literal.  A row without the
field, or with null in it, satisfies only the condition of being different.
-/

namespace Polystore

/-- How a field is compared. -/
inductive Comparator where
  | equal
  | different
  | greater
  | atLeast
  | less
  | atMost
deriving DecidableEq, Repr, Inhabited

namespace Comparator

def all : List Comparator :=
  [.equal, .different, .greater, .atLeast, .less, .atMost]

/-- The symbol in a relational condition. -/
def symbol : Comparator → String
  | .equal => "="
  | .different => "!="
  | .greater => ">"
  | .atLeast => ">="
  | .less => "<"
  | .atMost => "<="

/-- The key of the operator in a document filter. -/
def operatorKey : Comparator → String
  | .equal => "$eq"
  | .different => "$ne"
  | .greater => "$gt"
  | .atLeast => "$gte"
  | .less => "$lt"
  | .atMost => "$lte"

/-- The comparator of an operator key. -/
def ofOperatorKey? (key : String) : Option Comparator :=
  all.find? (·.operatorKey == key)

/-- The comparator whose symbol is the longest at the head of a text, and the
text behind it. -/
def atHead? : List Char → Option (Comparator × List Char)
  | '>' :: '=' :: rest => some (.atLeast, rest)
  | '<' :: '=' :: rest => some (.atMost, rest)
  | '!' :: '=' :: rest => some (.different, rest)
  | '=' :: rest => some (.equal, rest)
  | '>' :: rest => some (.greater, rest)
  | '<' :: rest => some (.less, rest)
  | _ => none

/-- The comparator accepts the order of a stored value and the literal. -/
def accepts : Comparator → Option Ordering → Bool
  | .equal, order => order == some .eq
  | .different, order => order != some .eq
  | .greater, order => order == some .gt
  | .atLeast, order => order == some .gt || order == some .eq
  | .less, order => order == some .lt
  | .atMost, order => order == some .lt || order == some .eq

end Comparator

/-- A constraint on one field. -/
structure Condition where
  field : String
  comparator : Comparator
  value : Literal
deriving DecidableEq, Repr, Inhabited

namespace Condition

/-- A literal does not begin with a character of a comparator. -/
def startsLiteral : List Char → Bool
  | [] => false
  | c :: _ => !(c == '=' || c == '<' || c == '>' || c == '!')

/-- The condition that a text without surrounding blanks spells. -/
def ofChars? (cs : List Char) : Option Condition := do
  let (field, rest) ← Text.name? cs
  let (comparator, rest) ← Comparator.atHead? (Text.skipBlanks rest)
  let value := Text.skipBlanks rest
  if startsLiteral value then
    some ⟨String.ofList field, comparator, Literal.ofChars value⟩
  else none

def holds (condition : Condition) (row : Row) : Bool :=
  match row.get? condition.field with
  | none => condition.comparator == .different
  | some .null => condition.comparator == .different
  | some actual => condition.comparator.accepts (condition.value.compare actual)

def allHold (conditions : List Condition) (row : Row) : Bool :=
  conditions.all (·.holds row)

end Condition

end Polystore
