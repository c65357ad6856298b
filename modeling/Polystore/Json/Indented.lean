import Polystore.Json.Printer

/-!
# Indented document text

The text of a document value for readers: every item and every field has a line
of its own, two blanks further in than the line that opens it.  Arrays and
objects without parts stay on one line.
-/

namespace Polystore.Json

/-- The start of a line at a depth. -/
def lineStart (depth : Nat) : List Char :=
  '\n' :: List.replicate (2 * depth) ' '

/-- Parts on lines of their own between two brackets. -/
def bracketed (opening closing : Char) (depth : Nat)
    (parts : List (List Char)) : List Char :=
  if parts.isEmpty then [opening, closing]
  else
    let lines := parts.map fun part => lineStart (depth + 1) ++ part
    opening :: (commaSeparated lines ++ (lineStart depth ++ [closing]))

mutual

/-- The characters of the indented text at a depth. -/
def indentedChars (depth : Nat) : Json → List Char
  | .array items => bracketed '[' ']' depth (indentedItems depth items)
  | .object fields =>
    bracketed '\x7b' '\x7d' depth (indentedFields depth fields)
  | value => chars value

/-- The texts of the items of an array that is opened at a depth. -/
def indentedItems (depth : Nat) : List Json → List (List Char)
  | [] => []
  | item :: items => indentedChars (depth + 1) item :: indentedItems depth items

/-- The texts of the fields of an object that is opened at a depth. -/
def indentedFields (depth : Nat) : List (String × Json) → List (List Char)
  | [] => []
  | (key, value) :: fields =>
    (quoted key ++ ':' :: ' ' :: indentedChars (depth + 1) value) ::
      indentedFields depth fields

end

def indented (value : Json) : String :=
  String.ofList (indentedChars 0 value)

end Polystore.Json
