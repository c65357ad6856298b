import Polystore.Query.Condition
import Polystore.Query.Conjunction
import Polystore.Text.DecimalDigit

/-!
# Selections

The relational statements that other stores can answer as well: everything from
one source, under a conjunction of conditions, up to a number of rows.
-/

namespace Polystore

/-- A selection of all columns. -/
structure Select where
  source : String
  conditions : List Condition
  limit : Option Nat
deriving DecidableEq, Repr, Inhabited

namespace Select

open Text

/-- The source named behind `select * from`, and the text behind it. -/
def head? (cs : List Char) : Option (List Char × List Char) := do
  let cs ← afterKeyword? ['s', 'e', 'l', 'e', 'c', 't'] (skipBlanks cs)
  let cs ← after? ['*'] (← afterBlanks? cs)
  let cs ← afterKeyword? ['f', 'r', 'o', 'm'] (← afterBlanks? cs)
  name? (← afterBlanks? cs)

/-- Nothing follows but blanks and at most one semicolon. -/
def closes (cs : List Char) : Bool :=
  match skipBlanks cs with
  | [] => true
  | c :: rest => c == ';' && (skipBlanks rest).isEmpty

/-- The digits of a limit that ends the statement. -/
def limitDigits? (cs : List Char) : Option (List Char) := do
  let cs ← afterKeyword? ['l', 'i', 'm', 'i', 't'] (← afterBlanks? cs)
  let cs ← afterBlanks? cs
  let digits := cs.takeWhile isDecimalDigit
  if !digits.isEmpty && closes (cs.dropWhile isDecimalDigit) then some digits
  else none

/-- The end of a statement, with the digits of its limit where there is one. -/
def ending? (cs : List Char) : Option (Option (List Char)) :=
  match limitDigits? cs with
  | some digits => some (some digits)
  | none => if closes cs then some none else none

/-- The shortest clause that is followed by an end of the statement, and that
end. -/
def clauseAndEnding? : List Char → Option (List Char × Option (List Char))
  | [] => none
  | c :: cs =>
    match ending? cs with
    | some limit => some ([c], limit)
    | none =>
      (clauseAndEnding? cs).map fun (clause, limit) => (c :: clause, limit)

/-- The clause behind `where` and the end of the statement.  When only blanks
follow the keyword, the last of several blanks counts as the clause. -/
def whereClause? (cs : List Char) :
    Option (List Char × Option (List Char)) := do
  let cs ← afterKeyword? ['w', 'h', 'e', 'r', 'e'] (← afterBlanks? cs)
  let body ← afterBlanks? cs
  if body.isEmpty then
    if cs.length < 2 then none else clauseAndEnding? (cs.drop (cs.length - 1))
  else clauseAndEnding? body

/-- The parts of a statement: source, clause and digits of the limit. -/
def parts? (cs : List Char) :
    Option (List Char × Option (List Char) × Option (List Char)) := do
  let (source, rest) ← head? cs
  match whereClause? rest with
  | some (clause, limit) => some (source, some clause, limit)
  | none => (ending? rest).map fun limit => (source, none, limit)

def condition (cs : List Char) : Except Unsupported Condition :=
  match Condition.ofChars? cs with
  | some condition => .ok condition
  | none => .error (.condition (String.ofList cs))

/-- The conditions of a clause; a statement without clause has none. -/
def conditionsOf : Option (List Char) → Except Unsupported (List Condition)
  | none => .ok []
  | some clause => do (← Conjunction.split clause).mapM condition

def limitOf : Option (List Char) → Except Unsupported (Option Nat)
  | none => .ok none
  | some digits =>
    match Numeral.unsigned? digits with
    | .ok limit => .ok (some limit)
    | .error fault => .error (.limit fault)

/-- The selection that a text denotes. -/
def ofChars (cs : List Char) : Except Unsupported Select :=
  match parts? cs with
  | none => .error .notSelectAll
  | some (source, clause, digits) => do
    let conditions ← conditionsOf clause
    let limit ← limitOf digits
    return ⟨String.ofList source, conditions, limit⟩

def parse (query : String) : Except Unsupported Select :=
  ofChars query.toList

def holds (select : Select) (row : Row) : Bool :=
  Condition.allHold select.conditions row

end Select

end Polystore
