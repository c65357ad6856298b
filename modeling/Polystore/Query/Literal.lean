import Polystore.Json.Basic
import Polystore.Numeral.Binary64
import Polystore.Text.Blank
import Polystore.Text.Keyword

/-!
# Literals

The constants that a condition compares with.  A literal knows how it is spelled
in a condition, how it stands in a document, and how a stored value compares
with it.
-/

namespace Polystore

/-- A constant of a condition. -/
inductive Literal where
  | text (value : String)
  | integer (value : Int64)
  | real (value : Float)
  | truth (value : Bool)
deriving DecidableEq, Repr, Inhabited

namespace Literal

/-- The text between a pair of equal quotation marks that enclose everything. -/
def unquoted? (cs : List Char) : Option (List Char) :=
  match cs with
  | mark :: rest =>
    if (mark == '\'' || mark == '"') && rest.getLast? == some mark then
      some rest.dropLast
    else none
  | [] => none

/-- The finite number that a text denotes; whole numbers that fit a signed word
are exact. -/
def number? (cs : List Char) : Option Literal :=
  match Numeral.signed? cs with
  | .ok value => some (.integer (Int64.ofInt value))
  | .error _ =>
    match Numeral.float? cs with
    | some value => if value.isFinite then some (.real value) else none
    | none => none

/-- The truth value that a text names in any case. -/
def truth? (cs : List Char) : Option Literal :=
  if Text.equalsIgnoringAsciiCase cs ['t', 'r', 'u', 'e'] then
    some (.truth true)
  else if Text.equalsIgnoringAsciiCase cs ['f', 'a', 'l', 's', 'e'] then
    some (.truth false)
  else none

/-- The literal that a text spells; what is not quoted, a number or a truth
value is text. -/
def ofChars (cs : List Char) : Literal :=
  let cs := Text.trim cs
  match unquoted? cs with
  | some inner => .text (String.ofList inner)
  | none => ((number? cs).or (truth? cs)).getD (.text (String.ofList cs))

/-- The literal of a document value; arrays, objects and null have none. -/
def ofJson? : Json → Option Literal
  | .string value => some (.text value)
  | .bool value => some (.truth value)
  | .integer value =>
    if Int64.minValue.toInt ≤ value && value ≤ Int64.maxValue.toInt then
      some (.integer (Int64.ofInt value))
    else some (.real (Float.ofInt value))
  | .float value => some (.real value)
  | _ => none

def json : Literal → Json
  | .text value => .string value
  | .integer value => .integer value.toInt
  | .real value => Json.ofFloat value
  | .truth value => .bool value

/-- The order of two floats; there is none when one of them is no number. -/
def compareFloats (left right : Float) : Option Ordering :=
  if left < right then some .lt
  else if left == right then some .eq
  else if left > right then some .gt
  else none

/-- The order of two texts, character by character. -/
def compareTexts (left right : String) : Ordering :=
  if left < right then .lt else if left == right then .eq else .gt

def float? : Literal → Option Float
  | .integer value => some (Float.ofInt value.toInt)
  | .real value => some value
  | _ => none

/-- How a stored value compares with the literal.  Numbers of both kinds are
compared as floats. -/
def compare (literal : Literal) : Json → Option Ordering
  | .integer actual => literal.float?.bind (compareFloats (Float.ofInt actual))
  | .float actual => literal.float?.bind (compareFloats actual)
  | .string actual =>
    match literal with
    | .text value => some (compareTexts actual value)
    | _ => none
  | .bool actual =>
    match literal with
    | .truth value => some (Ord.compare actual value)
    | _ => none
  | _ => none

end Literal

end Polystore
