import Polystore.Numeral.Bounded
import Polystore.Text.Blank
import Polystore.Text.Keyword

/-!
# Conjunctions

The clause of a selection is cut into conditions at the word `and`.  Quoted
texts are opaque.  Brackets and the word `or` outside quotes make the clause
unsupported.
-/

namespace Polystore

/-- Why a selection has no document form. -/
inductive Unsupported where
  | notSelectAll
  | condition (text : String)
  | grouping
  | disjunction
  | unterminatedText
  | emptyCondition
  | limit (fault : Numeral.NumeralFault)
  | repeatedOperator (key field : String)
deriving DecidableEq, Repr

def Unsupported.message : Unsupported → String
  | .notSelectAll => "not a SELECT * query"
  | .condition text => s!"condition '{text}'"
  | .grouping => "grouping is not supported"
  | .disjunction => "disjunction is not supported"
  | .unterminatedText => "unterminated string literal"
  | .emptyCondition => "empty condition"
  | .limit fault => "limit: " ++ fault.message
  | .repeatedOperator key field => s!"repeated {key} on '{field}'"

namespace Conjunction

open Text

/-- What the scan of a clause is inside of. -/
inductive Position where
  | unquoted
  | quoted (mark : Char)
  | separator (left : Nat)
deriving DecidableEq, Repr

/-- The text begins with the keyword, in any case, and a blank of ASCII or the
end behind it. -/
def startsWithKeyword (keyword : List Char) (cs : List Char) : Bool :=
  equalsIgnoringAsciiCase (cs.take keyword.length) keyword
    && (cs.drop keyword.length).head?.all isAsciiBlank

/-- The scan has ended; `soFar` is the last part, last character first. -/
def finish (position : Position) (soFar : List Char) :
    Except Unsupported (List (List Char)) :=
  match position with
  | .quoted _ => .error .unterminatedText
  | _ => .ok [soFar.reverse]

/-- The parts of a clause; `soFar` holds the characters of the current part,
last one first. -/
def scan (position : Position) (soFar : List Char) :
    List Char → Except Unsupported (List (List Char))
  | [] => finish position soFar
  | c :: cs =>
    match position with
    | .separator (left + 1) => scan (.separator left) soFar cs
    | .quoted mark =>
      scan (if c == mark then .unquoted else .quoted mark) (c :: soFar) cs
    | _ =>
      if c == '\'' || c == '"' then scan (.quoted c) (c :: soFar) cs
      else if c == '(' || c == ')' then .error .grouping
      else if isAsciiBlank c then
        let word := skipBlanks cs
        if startsWithKeyword ['a', 'n', 'd'] word then
          (scan (.separator (cs.length - word.length + 3)) [] cs).map
            (soFar.reverse :: ·)
        else if startsWithKeyword ['o', 'r'] word then .error .disjunction
        else scan .unquoted (c :: soFar) cs
      else scan .unquoted (c :: soFar) cs

/-- The conditions of a clause as texts without surrounding blanks. -/
def split (clause : List Char) : Except Unsupported (List (List Char)) := do
  let parts := (← scan .unquoted [] clause).map trim
  if parts.any List.isEmpty then throw .emptyCondition
  return parts

end Conjunction

end Polystore
