/-!
# Entries in the order of their keys

Rows, filters and score tables are finite maps from texts.  Their entries are
kept in ascending order of keys, character by character, with one entry for each
key.  All operations preserve that order, so two maps with the same entries are
equal lists.
-/

namespace Polystore

/-- The entries of a finite map from texts. -/
abbrev Keyed (α : Type) := List (String × α)

namespace Keyed

variable {α β : Type}

def get? (key : String) (entries : Keyed α) : Option α :=
  List.lookup key entries

def contains (key : String) (entries : Keyed α) : Bool :=
  (get? key entries).isSome

/-- The entries with the value of one key set. -/
def insert (key : String) (value : α) : Keyed α → Keyed α
  | [] => [(key, value)]
  | (other, current) :: rest =>
    if key < other then (key, value) :: (other, current) :: rest
    else if key == other then (key, value) :: rest
    else (other, current) :: insert key value rest

def erase (key : String) (entries : Keyed α) : Keyed α :=
  entries.filter (·.1 != key)

def keys (entries : Keyed α) : List String :=
  entries.map (·.1)

def values (entries : Keyed α) : List α :=
  entries.map (·.2)

/-- The entries of a list of pairs; of two values for one key the later one
stays. -/
def ofList (pairs : List (String × α)) : Keyed α :=
  pairs.foldl (fun entries (key, value) => insert key value entries) []

def mapValues (f : α → β) (entries : Keyed α) : Keyed β :=
  entries.map fun (key, value) => (key, f value)

/-- The keys ascend strictly. -/
def Ordered (entries : Keyed α) : Prop :=
  entries.Pairwise fun left right => left.1 < right.1

end Keyed

end Polystore
