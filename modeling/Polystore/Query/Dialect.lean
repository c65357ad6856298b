import Polystore.Json.Decode
import Polystore.Text.Blank

/-!
# Dialects

The three families of query languages that stores speak.
-/

namespace Polystore

/-- A family of query languages. -/
inductive Dialect where
  | relational
  | document
  | keyValue
deriving DecidableEq, Repr, Inhabited

/-- A text that names no dialect, in lower case and without surrounding
blanks. -/
structure UnknownDialect where
  text : String
deriving DecidableEq, Repr

def UnknownDialect.message (unknown : UnknownDialect) : String :=
  s!"unknown dialect '{unknown.text}'"

namespace Dialect

def all : List Dialect := [.relational, .document, .keyValue]

def name : Dialect → String
  | .relational => "relational"
  | .document => "document"
  | .keyValue => "key_value"

/-- The dialect that a caller means by a text; short names are understood. -/
def ofText (text : String) : Except UnknownDialect Dialect :=
  let word := String.ofList ((Text.trim text.toList).map Char.toLower)
  if word == "relational" || word == "sql" then .ok .relational
  else if word == "document" || word == "doc" then .ok .document
  else if word == "key_value" || word == "keyvalue" || word == "kv" then
    .ok .keyValue
  else .error ⟨word⟩

def decode : Written → Option Dialect :=
  Written.choice? (all.map fun dialect => (dialect.name, dialect))

end Dialect

end Polystore
