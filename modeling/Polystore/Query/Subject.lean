import Polystore.Query.Classification

/-!
# Subjects

The table, collection or key that a query addresses.  Stores are asked for it
before they are asked to run the query.
-/

namespace Polystore.Query

open Text

/-- A name behind these words is the table of a relational statement. -/
def subjectKeywords : List (List Char) :=
  ["from", "into", "update"].map String.toList

/-- A character that a table name begins with: a letter in the sense of
keywords, or underscore. -/
def startsTable (c : Char) : Bool :=
  c.isAlpha || c == '_' || foldsTo 's' c || foldsTo 'k' c

/-- The text behind an opening quotation mark of a table name, where there is
one. -/
def skipTableQuote : List Char → List Char
  | '"' :: cs => cs
  | '\x60' :: cs => cs
  | cs => cs

/-- The table named right behind a keyword at the head of the text. -/
def tableAtHead? (cs : List Char) : Option (List Char) := do
  let cs ← subjectKeywords.findSome? (afterKeyword? · cs)
  match skipTableQuote (← afterBlanks? cs) with
  | [] => none
  | c :: cs =>
    if startsTable c then some (c :: cs.takeWhile fun c => isWord c || c == '.')
    else none

/-- The first table that is named behind a keyword; `insideWord` tells what
stands before. -/
def table? (insideWord : Bool) : List Char → Option (List Char)
  | [] => none
  | c :: cs =>
    match if insideWord then none else tableAtHead? (c :: cs) with
    | some table => some table
    | none => table? (isWord c) cs

/-- The word behind the command of a key-value query. -/
def argument? (cs : List Char) : Option (List Char) := do
  let (_, cs) ← name? (skipBlanks cs)
  match (← afterBlanks? cs).takeWhile fun c => !isBlank c with
  | [] => none
  | argument => some argument

/-- What a text in a dialect addresses. -/
def subjectChars? : Dialect → List Char → Option (List Char)
  | .relational, cs => table? false cs
  | .document, cs => (collectionCall? cs).map (·.1)
  | .keyValue, cs => argument? cs

/-- The table, collection or key that a query in a dialect addresses. -/
def subject? (dialect : Dialect) (query : String) : Option String :=
  (subjectChars? dialect query.toList).map String.ofList

end Polystore.Query
