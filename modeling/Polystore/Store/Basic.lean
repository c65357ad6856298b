import Polystore.Store.Descriptor
import Polystore.Store.Entries
import Polystore.Store.Tables

/-!
# Stores

A store answers queries, tells whether it holds an object, and can be connected
to.  Stores in memory can be switched off and can be slow; a scripted store does
what its script says, for each call anew, and so stands for any behaviour at
all.  Every store keeps a log of what it was asked, and counts the calls that it
noticed.
-/

namespace Polystore

/-- What a store can be asked. -/
inductive Store.Request where
  | query (text : String)
  | probe (identifier : String)
deriving DecidableEq, Repr

/-- A request that was made.  A store that is switched off does not notice
it. -/
structure Call where
  request : Store.Request
  noticed : Bool
deriving DecidableEq, Repr

/-- What a scripted store does, given the earlier calls and the text of this
one. -/
structure Script where
  onQuery : List Call → String → Reply Response
  onProbe : List Call → String → Reply Bool
  onConnect : Option Fault

/-- Where the answers of a store come from. -/
inductive Backend where
  | relational (tables : Tables)
  | document (collections : Tables)
  | keyValue (entries : Entries)
  | scripted (script : Script)

/-- A store and its state.  A call takes `delay` milliseconds. -/
structure Store where
  descriptor : Descriptor
  backend : Backend
  offline : Bool
  delay : Nat
  /-- What the store was asked, in order. -/
  log : List Call

namespace Store

def name (store : Store) : String :=
  store.descriptor.name

/-- A store that is online, immediate and not yet called. -/
def ofBackend (descriptor : Descriptor) (backend : Backend) : Store :=
  ⟨descriptor, backend, false, 0, []⟩

def setOnline (store : Store) (online : Bool) : Store :=
  { store with offline := !online }

/-- The store with one more request in its log. -/
def note (store : Store) (request : Request) : Store :=
  { store with log := store.log ++ [⟨request, !store.offline⟩] }

/-- The number of calls that the store has noticed. -/
def calls (store : Store) : Nat :=
  store.log.countP (·.noticed)

def offlineText (store : Store) : String :=
  s!"{store.name} is offline"

/-- The reply of a store that is online, and the store's backend behind it. -/
def respond (store : Store) (query : String) : Backend × Reply Response :=
  match store.backend with
  | .relational tables =>
    (store.backend, .answered (tables.select store.name query))
  | .document collections => (store.backend, .answered (collections.find query))
  | .keyValue entries =>
    let (entries, response) := entries.run store.name query
    (.keyValue entries, .answered response)
  | .scripted script => (store.backend, script.onQuery store.log query)

/-- Runs a query, which has no effect on a store that is switched off. -/
def execute (store : Store) (query : String) : Store × Reply Response :=
  let next := store.note (.query query)
  if store.offline then
    (next, .failed (.storeUnavailable store.offlineText))
  else
    let (backend, reply) := store.respond query
    ({ next with backend }, reply)

/-- What a store that is online tells about an object. -/
def presence (store : Store) (identifier : String) : Reply Bool :=
  match store.backend with
  | .relational tables => .answered (tables.holds identifier)
  | .document collections => .answered (collections.holds identifier)
  | .keyValue entries => .answered (entries.holds identifier)
  | .scripted script => script.onProbe store.log identifier

/-- Asks whether a store holds an object. -/
def probe (store : Store) (identifier : String) : Store × Reply Bool :=
  (store.note (.probe identifier),
    if store.offline then .failed (.storeUnavailable store.offlineText)
    else store.presence identifier)

/-- The call would take longer than the limit. -/
def isSlowerThan (store : Store) (limit : Nat) : Bool :=
  !store.offline && limit < store.delay

/-- Runs a query that is given up after `limit` milliseconds, before it has any
effect. -/
def executeWithin (limit : Nat) (store : Store) (query : String) :
    Store × Reply Response :=
  if store.isSlowerThan limit then
    (store.note (.query query), .failed (.timeout store.name limit))
  else store.execute query

/-- Asks whether a store holds an object, and gives up after `limit`
milliseconds. -/
def probeWithin (limit : Nat) (store : Store) (identifier : String) :
    Store × Reply Bool :=
  if store.isSlowerThan limit then
    (store.note (.probe identifier), .failed (.timeout store.name limit))
  else store.probe identifier

/-- The fault of connecting to a store. -/
def connectFault? (store : Store) : Option Fault :=
  match store.backend with
  | .scripted script => script.onConnect
  | _ =>
    if store.offline then some (.connection store.offlineText) else none

end Store

end Polystore
