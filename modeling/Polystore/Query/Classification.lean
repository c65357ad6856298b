import Polystore.Query.Dialect
import Polystore.Text.Keyword

/-!
# Classification of query texts

Every text belongs to exactly one dialect.  Call syntax makes it a document
query, a relational or a key-value keyword as its first word decides otherwise,
and all other texts count as relational.
-/

namespace Polystore

namespace Query

open Text

/-- A method call on a collection of a database: the collection and the text
behind the bracket. -/
def collectionCall? (cs : List Char) : Option (List Char × List Char) := do
  let (_, cs) ← name? (skipBlanks cs)
  let cs ← after? ['.'] cs
  let (collection, cs) ← name? cs
  let cs ← after? ['.'] cs
  let (_, cs) ← name? cs
  let cs ← after? ['('] (skipBlanks cs)
  return (collection, cs)

/-- First words of relational statements. -/
def relationalKeywords : List (List Char) :=
  ["select", "insert", "update", "delete", "with"].map String.toList

/-- First words of key-value commands. -/
def keyValueKeywords : List (List Char) :=
  ["get", "set", "keys", "hgetall", "lpush", "rpush", "sadd"].map String.toList

/-- The first word of the text is one of the keywords. -/
def startsWithAny (keywords : List (List Char)) (cs : List Char) : Bool :=
  keywords.any fun keyword =>
    isKeyword keyword ((skipBlanks cs).takeWhile isWord)

def classifyChars (cs : List Char) : Dialect :=
  if (collectionCall? cs).isSome then .document
  else if startsWithAny relationalKeywords cs then .relational
  else if startsWithAny keyValueKeywords cs then .keyValue
  else .relational

def classify (query : String) : Dialect :=
  classifyChars query.toList

end Query

end Polystore
