import Polystore.Keyed

/-!
# Document values

The values that rows, documents and filters are made of.  Whole numbers of up to
64 bits are kept exactly and apart from floating point numbers.
-/

namespace Polystore

/-- A document value.  The fields of an object are in the order of their
keys. -/
inductive Json where
  | null
  | bool (value : Bool)
  | integer (value : Int)
  | float (value : Float)
  | string (value : String)
  | array (items : List Json)
  | object (fields : List (String × Json))
deriving Inhabited, Repr

/-- A row of a table or a document of a collection. -/
abbrev Row := Keyed Json

namespace Json

/-- A float as a document value; documents hold no infinities and nothing that
is no number. -/
def ofFloat (value : Float) : Json :=
  if value.isFinite then .float value else .null

/-- The value, or null where there is none. -/
def ofOption {α : Type} (encode : α → Json) : Option α → Json
  | some value => encode value
  | none => .null

def record (fields : List (String × Json)) : Json :=
  .object (Keyed.ofList fields)

def fields? : Json → Option Row
  | .object fields => some fields
  | _ => none

/-- The value of a field; values without fields have none. -/
def field? (key : String) (value : Json) : Option Json :=
  value.fields?.bind (Keyed.get? key)

end Json

end Polystore
