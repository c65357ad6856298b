import Polystore.Json.Reader
import Polystore.Store.Glob
import Polystore.Store.Response
import Polystore.Text.Blank

/-!
# Entries of a key-value store

The commands of a key-value store and their effect on its entries.  Only a
command that sets a value changes an entry, and only that of its key.
-/

namespace Polystore

/-- Values by key. -/
abbrev Entries := Keyed Json

namespace Entries

/-- The value that a text denotes: the document value, or the text itself. -/
def valueOf (text : String) : Json :=
  match Json.read text with
  | .ok value => value
  | .error _ => .string text

/-- The response that lists the entry of a key. -/
def lookup (entries : Entries) (key : String) : Response :=
  .rows <| match entries.get? key with
    | none => []
    | some value => [.record [("key", .string key), ("value", value)]]

/-- The response with the value of a key, provided that it is an object. -/
def object (entries : Entries) (key : String) : Response :=
  .rows <| match entries.get? key with
    | some (.object fields) => [.object fields]
    | _ => []

/-- The response that lists the keys that match a pattern. -/
def matching (entries : Entries) (pattern : String) : Response :=
  .rows <| (entries.keys.filter (Glob.matchesKey pattern)).map fun key =>
    .record [("value", .string key)]

/-- The entries and the response after setting a key to the value of the given
words. -/
def set (entries : Entries) (key : String) (value : List (List Char)) :
    Entries × Response :=
  if value.isEmpty then (entries, .refused "SET requires a value")
  else
    (entries.insert key (valueOf (String.ofList (Text.unwords value))),
      .rows [.record [("value", .string "OK")]])

/-- The entries and the response of the store `store` after a command. -/
def run (entries : Entries) (store query : String) : Entries × Response :=
  match Text.words query.toList with
  | command :: key :: arguments =>
    let key := String.ofList key
    let command := String.ofList (command.map Char.toUpper)
    match command with
    | "GET" => (entries, entries.lookup key)
    | "HGETALL" => (entries, entries.object key)
    | "KEYS" => (entries, entries.matching key)
    | "SET" => entries.set key arguments
    | _ => (entries, .refused s!"command {command} not supported by {store}")
  | _ => (entries, .refused "key-value query requires a key")

/-- A key, or a key that matches a pattern, is there. -/
def holds (entries : Entries) (identifier : String) : Bool :=
  if Glob.isPattern identifier then
    entries.keys.any (Glob.matchesKey identifier)
  else entries.contains identifier

end Entries

end Polystore
