import Polystore.Json.Written
import Polystore.Numeral.Bounded

/-!
# Decoding records

Records are read from objects by field name or from arrays by position.  A field
may have a value for when it is missing; fields that the record does not know
are ignored, and a field that it does know must not be repeated.  Nothing is
converted between texts, numbers and truth values.
-/

namespace Polystore.Written

variable {α : Type}

def text? : Written → Option String
  | .string value => some value
  | _ => none

def flag? : Written → Option Bool
  | .bool value => some value
  | _ => none

def real? : Written → Option Float
  | .integer value => some (Float.ofInt value)
  | .float value => some value
  | _ => none

/-- A whole number that fits an unsigned word. -/
def natural? : Written → Option Nat
  | .integer (.ofNat value) =>
    if value ≤ Numeral.maxUnsigned then some value else none
  | _ => none

/-- Null, or what `decode` reads. -/
def optional? (decode : Written → Option α) : Written → Option (Option α)
  | .null => some none
  | tree => (decode tree).map some

/-- An array of what `decode` reads. -/
def list? (decode : Written → Option α) : Written → Option (List α)
  | .array items => items.mapM decode
  | _ => none

/-- One of the given names; a name may also be the only key of an object and
hold null. -/
def choice? (choices : List (String × α)) : Written → Option α
  | .string name => choices.lookup name
  | .object [(some name, .null)] => choices.lookup name
  | _ => none

/-- A field whose key is a text and whose value is what `decode` reads. -/
def keyedField? (decode : Written → Option α)
    (field : Option String × Written) : Option (String × α) := do
  let key ← field.1
  let value ← decode field.2
  return (key, value)

/-- An object as a map; of a repeated key the last value counts. -/
def keyed? (decode : Written → Option α) : Written → Option (Keyed α)
  | .object fields => (fields.mapM (keyedField? decode)).map Keyed.ofList
  | _ => none

/-- The fields of a record that are there. -/
abbrev Members := List (String × Written)

/-- The known fields of an object, provided that no key is unreadable and none
of them repeats. -/
def knownFields? (names : List String) :
    List (Option String × Written) → Option Members
  | [] => some []
  | (key, tree) :: rest => do
    let key ← key
    let members ← knownFields? names rest
    if !names.contains key then some members
    else if (members.lookup key).isSome then none
    else some ((key, tree) :: members)

/-- The fields of a record with the given field names. -/
def members? (names : List String) : Written → Option Members
  | .object fields => knownFields? names fields
  | .array items =>
    if items.length ≤ names.length then some (names.zip items) else none
  | _ => none

/-- The fields of a record whose fields may be missing from an object, but not
from an array. -/
def allMembers? (names : List String) : Written → Option Members
  | .array items =>
    if items.length == names.length then some (names.zip items) else none
  | tree => tree.members? names

/-- A field that has to be there. -/
def Members.required (members : Members) (name : String)
    (decode : Written → Option α) : Option α :=
  (members.lookup name).bind decode

/-- A field with a value for when it is missing. -/
def Members.withDefault (members : Members) (name : String) (default : α)
    (decode : Written → Option α) : Option α :=
  match members.lookup name with
  | some tree => decode tree
  | none => some default

end Polystore.Written
