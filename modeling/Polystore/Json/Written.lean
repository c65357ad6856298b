import Polystore.Json.Basic

/-!
# Documents as they are written

The tree of a document text before it is given a meaning: fields stand in
written order and may repeat a key, and a part that fits the grammar without
denoting a value (a number beyond the floats, half of a surrogate pair) is kept
as unreadable.  Records are decoded from this tree, since a repeated field or an
unreadable part matters only where a record looks at it.
-/

namespace Polystore

/-- The tree of a document text.  A key is absent when it does not denote a
text. -/
inductive Written where
  | null
  | bool (value : Bool)
  | integer (value : Int)
  | float (value : Float)
  | string (value : String)
  | unreadable
  | array (items : List Written)
  | object (fields : List (Option String × Written))
deriving Inhabited

namespace Written

mutual

/-- The document value; of a repeated field the last one counts. -/
def json : Written → Json
  | .null => .null
  | .bool value => .bool value
  | .integer value => .integer value
  | .float value => .float value
  | .string value => .string value
  | .unreadable => .null
  | .array items => .array (jsonItems items)
  | .object fields => .object (Keyed.ofList (jsonFields fields))

def jsonItems : List Written → List Json
  | [] => []
  | item :: items => json item :: jsonItems items

/-- The fields of an object in written order. -/
def jsonFields : List (Option String × Written) → List (String × Json)
  | [] => []
  | (key, value) :: fields => (key.getD "", json value) :: jsonFields fields

end

end Written

mutual

/-- The tree that a document value is written as. -/
def Json.written : Json → Written
  | .null => .null
  | .bool value => .bool value
  | .integer value => .integer value
  | .float value => .float value
  | .string value => .string value
  | .array items => .array (Json.writtenItems items)
  | .object fields => .object (Json.writtenFields fields)

def Json.writtenItems : List Json → List Written
  | [] => []
  | item :: items => Json.written item :: Json.writtenItems items

def Json.writtenFields : List (String × Json) → List (Option String × Written)
  | [] => []
  | (key, value) :: fields =>
    (some key, Json.written value) :: Json.writtenFields fields

end

end Polystore
