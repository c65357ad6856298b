/-!
# Faults

What can go wrong between a query and its answer.  A fault of the class of
unavailability means that the store counts as absent for the call.
-/

namespace Polystore

/-- Why an operation has no answer. -/
inductive Fault where
  | inconvertible (detail : String)
  | unknownStore (detail : String)
  | storeUnavailable (detail : String)
  | storeFailed (detail : String)
  | connection (detail : String)
  | timeout (store : String) (milliseconds : Nat)
  | noStore (dialect : String)
  | persistence (detail : String)
  | settings (detail : String)
  | file (detail : String)
  | document (detail : String)
  | log (detail : String)
deriving DecidableEq, Repr, Inhabited

namespace Fault

def message : Fault → String
  | .inconvertible detail => "Translation unsupported: " ++ detail
  | .unknownStore detail => "Unknown store requested: " ++ detail
  | .storeUnavailable detail => "Store unavailable: " ++ detail
  | .storeFailed detail => "Store execution error: " ++ detail
  | .connection detail => "Connection error: " ++ detail
  | .timeout store milliseconds =>
    s!"Timed out after {milliseconds}ms waiting for store '{store}'"
  | .noStore dialect => "No store registered for dialect " ++ dialect
  | .persistence detail => "Persistence error: " ++ detail
  | .settings detail => "Configuration error: " ++ detail
  | .file detail => "IO error: " ++ detail
  | .document detail => "JSON error: " ++ detail
  | .log detail => "SQLite error: " ++ detail

/-- The store could not be reached. -/
def isUnavailability : Fault → Bool
  | .storeUnavailable _ => true
  | .connection _ => true
  | .timeout _ _ => true
  | _ => false

end Fault

end Polystore
