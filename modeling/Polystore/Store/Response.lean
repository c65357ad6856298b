import Polystore.Fault
import Polystore.Json.Basic

/-!
# Responses

What comes back from a store: a response with rows or with the store's own
error, a fault that kept the store from responding, or nothing because the
store's code crashed.
-/

namespace Polystore

structure Response where
  success : Bool
  data : List Json
  error : Option String
deriving Repr, Inhabited

namespace Response

def rows (data : List Json) : Response :=
  ⟨true, data, none⟩

def refused (error : String) : Response :=
  ⟨false, [], some error⟩

/-- A response that says nothing. -/
def blank : Response :=
  ⟨false, [], none⟩

def json (response : Response) : Json :=
  .record [
    ("success", .bool response.success),
    ("data", .array response.data),
    ("error", .ofOption .string response.error)]

end Response

/-- What happens when a store is asked. -/
inductive Reply (α : Type) where
  | answered (value : α)
  | failed (fault : Fault)
  | crashed
deriving Repr

instance {α : Type} : Inhabited (Reply α) := ⟨.crashed⟩

end Polystore
