import Polystore.Query.Dialect

/-!
# Descriptions of stores

What is known about a store without asking it: its name, the dialects it serves
and its coarse abilities.
-/

namespace Polystore

/-- Coarse abilities of a store. -/
structure Capabilities where
  pointLookups : Bool
  adHocFilters : Bool
  joins : Bool
  transactions : Bool
deriving DecidableEq, Repr

namespace Capabilities

/-- The abilities of the stores of a dialect. -/
def ofDialect : Dialect → Capabilities
  | .relational => ⟨false, true, true, true⟩
  | .document => ⟨false, true, false, false⟩
  | .keyValue => ⟨true, false, false, false⟩

def json (capabilities : Capabilities) : Json :=
  .record [
    ("point_lookups", .bool capabilities.pointLookups),
    ("ad_hoc_filters", .bool capabilities.adHocFilters),
    ("joins", .bool capabilities.joins),
    ("transactions", .bool capabilities.transactions)]

end Capabilities

/-- What is known about a store.  The first of its dialects is its primary
one. -/
structure Descriptor where
  name : String
  dialects : List Dialect
  capabilities : Capabilities
deriving DecidableEq, Repr

namespace Descriptor

/-- A store that serves one dialect. -/
def single (name : String) (dialect : Dialect) : Descriptor :=
  ⟨name, [dialect], .ofDialect dialect⟩

/-- The dialect in which a store is addressed when nothing else is said. -/
def primary (descriptor : Descriptor) : Dialect :=
  descriptor.dialects.headD .relational

/-- The store understands the dialect. -/
def serves (descriptor : Descriptor) (dialect : Dialect) : Bool :=
  descriptor.dialects.contains dialect

end Descriptor

end Polystore
