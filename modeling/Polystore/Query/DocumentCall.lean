import Polystore.Json.Printer
import Polystore.Query.DocumentFilter

/-!
# Calls to document stores

The call that finds the documents of a collection under a filter, with an
optional limit, as it is written and as it is read.
-/

namespace Polystore

/-- The parts of a call as they stand in its text. -/
structure DocumentCall where
  collection : String
  filter : List Char
  limit : Option (List Char)
deriving DecidableEq, Repr

namespace DocumentCall

open Text

def render (collection : String) (filter : Json) (limit : Option Nat) :
    String :=
  let call := "db." ++ collection ++ ".find(" ++ filter.text ++ ")"
  match limit with
  | none => call
  | some limit => call ++ ".limit(" ++ Numeral.integerText limit ++ ")"

/-- The digits of a limit that ends the call. -/
def limitDigits? (cs : List Char) : Option (List Char) := do
  let cs ← after? ['.', 'l', 'i', 'm', 'i', 't'] (skipBlanks cs)
  let cs ← after? ['('] (skipBlanks cs)
  let cs := skipBlanks cs
  let digits := cs.takeWhile isDecimalDigit
  let rest ← after? [')'] (skipBlanks (cs.dropWhile isDecimalDigit))
  if !digits.isEmpty && Select.closes rest then some digits else none

/-- The end of a call from its closing bracket on, with the digits of a
limit. -/
def ending? (cs : List Char) : Option (Option (List Char)) := do
  let rest ← after? [')'] (skipBlanks cs)
  match limitDigits? rest with
  | some digits => some (some digits)
  | none => if Select.closes rest then some none else none

/-- The shortest text that is followed by an end of the call, and that end. -/
def filterAndEnding? : List Char → Option (List Char × Option (List Char))
  | [] => none
  | c :: cs =>
    match ending? (c :: cs) with
    | some limit => some ([], limit)
    | none =>
      (filterAndEnding? cs).map fun (filter, limit) => (c :: filter, limit)

/-- The call that a text spells. -/
def ofChars? (cs : List Char) : Option DocumentCall := do
  let (_, cs) ← name? (skipBlanks cs)
  let (collection, cs) ← name? (← after? ['.'] cs)
  let cs ← after? ['.', 'f', 'i', 'n', 'd'] cs
  let cs ← after? ['('] (skipBlanks cs)
  let (filter, limit) ← filterAndEnding? (skipBlanks cs)
  return ⟨String.ofList collection, filter, limit⟩

end DocumentCall

end Polystore
