import Polystore.Store.Basic

/-!
# The registry

The stores in the order of their registration, which decides between stores that
are otherwise equal.  A name is registered once.
-/

namespace Polystore

/-- The registered stores. -/
structure Registry where
  stores : List Store

namespace Registry

def empty : Registry := ⟨[]⟩

/-- The names in the order of registration. -/
def names (registry : Registry) : List String :=
  registry.stores.map Store.name

def size (registry : Registry) : Nat :=
  registry.stores.length

def register (registry : Registry) (store : Store) : Except Fault Registry :=
  if registry.names.contains store.name then
    .error (.settings s!"store '{store.name}' registered twice")
  else .ok ⟨registry.stores ++ [store]⟩

def ofList (stores : List Store) : Except Fault Registry :=
  stores.foldlM register empty

def find? (registry : Registry) (name : String) : Option Store :=
  registry.stores.find? fun store => store.name == name

/-- The fault of asking for a name that is not registered. -/
def unknown (registry : Registry) (name : String) : Fault :=
  .unknownStore
    ("'" ++ name ++ "' (available: " ++ ", ".intercalate registry.names ++ ")")

/-- The store of a name. -/
def get (registry : Registry) (name : String) : Except Fault Store :=
  match registry.find? name with
  | some store => .ok store
  | none => .error (registry.unknown name)

/-- The registry with the state of the store of the same name replaced. -/
def put (registry : Registry) (store : Store) : Registry :=
  ⟨registry.stores.map fun other =>
    if other.name == store.name then store else other⟩

/-- The place of a name in the order of registration. -/
def position? (registry : Registry) (name : String) : Option Nat :=
  registry.stores.findIdx? fun store => store.name == name

/-- The stores that serve a dialect. -/
def serving (registry : Registry) (dialect : Dialect) : List Store :=
  registry.stores.filter fun store => store.descriptor.serves dialect

/-- The store that answers in a dialect when nothing else decides: the
configured one when it is registered, else the first that serves the dialect,
else the first one. -/
def defaultFor (registry : Registry) (dialect : Dialect)
    (configured : Option String) : Except Fault Store :=
  let fallback := (registry.serving dialect).head?.or registry.stores.head?
  match (configured.bind registry.find?).or fallback with
  | some store => .ok store
  | none => .error (.noStore dialect.name)

/-- The stores that cannot be connected to, with the faults. -/
def connectFaults (registry : Registry) : List (String × Fault) :=
  registry.stores.filterMap fun store =>
    store.connectFault?.map fun fault => (store.name, fault)

end Registry

end Polystore
