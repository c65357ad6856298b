import Polystore.Query.DocumentForm
import Polystore.Settings
import Polystore.Store.Registry

/-!
# Candidates

The stores that can run a query, each with the text that it would run: the
stores that serve the query's dialect, and document stores with the document
form of a relational query.
-/

namespace Polystore

/-- A store together with the text that it would run. -/
structure Candidate where
  store : Descriptor
  query : String
  dialect : Dialect
  converted : Bool
deriving DecidableEq, Repr

namespace Candidate

def name (candidate : Candidate) : String :=
  candidate.store.name

/-- The caller's text on a store that serves its dialect. -/
def native (query : String) (dialect : Dialect) (store : Store) : Candidate :=
  ⟨store.descriptor, query, dialect, false⟩

/-- The document form of a query on a document store. -/
def conversion (query : String) (store : Store) : Candidate :=
  ⟨store.descriptor, query, .document, true⟩

/-- The caller's text on a store that is no candidate, under the store's primary
dialect. -/
def asIs (query : String) (store : Store) : Candidate :=
  ⟨store.descriptor, query, store.descriptor.primary, false⟩

/-- The place of a candidate in the order of registration. -/
def position (registry : Registry) (candidate : Candidate) : Nat :=
  (registry.position? candidate.name).getD registry.size

/-- The document stores with the document form of a relational query, where it
has one. -/
def conversions (registry : Registry) (query : String) : List Candidate :=
  let converted := Query.documentForm query
  if converted == query then []
  else (registry.serving .document).map (conversion converted)

/-- The stores that can run a query, in the order of registration. -/
def all (settings : Settings) (registry : Registry) (query : String)
    (dialect : Dialect) : List Candidate :=
  let natives := (registry.serving dialect).map (native query dialect)
  let others :=
    if dialect == .relational && settings.convertForRouting then
      (conversions registry query).filter fun candidate =>
        !natives.any fun other => other.name == candidate.name
    else []
  (natives ++ others).mergeSort fun left right =>
    left.position registry ≤ right.position registry

/-- The candidate of a store, or the caller's text on it when it is none. -/
def forStore (settings : Settings) (registry : Registry) (query : String)
    (dialect : Dialect) (store : Store) : Candidate :=
  ((all settings registry query dialect).find? fun candidate =>
    candidate.name == store.name).getD (asIs query store)

end Candidate

end Polystore
