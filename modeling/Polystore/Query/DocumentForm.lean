import Polystore.Query.Classification
import Polystore.Query.DocumentCall

/-!
# Document forms

A selection has a form for document stores, the call that finds the same rows.
Every text that is no selection, or whose conditions have no filter, is left as
it is, so the store that receives it reports what is wrong with it.
-/

namespace Polystore

namespace Select

def filter (select : Select) : Except Unsupported Json :=
  (DocumentFilter.ofConditions select.conditions).map .object

/-- The call that finds the same rows in a document store. -/
def documentQuery (select : Select) : Except Unsupported String :=
  select.filter.map fun filter =>
    DocumentCall.render select.source filter select.limit

end Select

namespace Query

/-- The query for a document store, or the query itself when it has no such
form. -/
def documentForm (query : String) : String :=
  match classify query with
  | .relational =>
    match Select.parse query >>= Select.documentQuery with
    | .ok converted => converted
    | .error _ => query
  | _ => query

end Query

end Polystore
