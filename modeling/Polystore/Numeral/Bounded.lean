/-!
# Bounded whole numbers

Reading a whole number that has to fit a word.  Digits are taken from the left,
and the first fault met decides: a character that is no ASCII digit, or a value
that has left the range.
-/

namespace Polystore.Numeral

/-- Why a text is no whole number in range. -/
inductive NumeralFault where
  | empty
  | invalidDigit
  | tooLarge
  | tooSmall
deriving DecidableEq, Repr

def NumeralFault.message : NumeralFault → String
  | .empty => "cannot parse integer from empty string"
  | .invalidDigit => "invalid digit found in string"
  | .tooLarge => "number too large to fit in target type"
  | .tooSmall => "number too small to fit in target type"

def digitValue (c : Char) : Nat :=
  c.toNat - 48

def digitsValue (digits : List Char) : Nat :=
  digits.foldl (fun value c => value * 10 + digitValue c) 0

/-- The value of the digits behind `value`; `exceeded` is the fault of leaving
the bound. -/
def boundedFrom (bound : Nat) (exceeded : NumeralFault) (value : Nat) :
    List Char → Except NumeralFault Nat
  | [] => .ok value
  | c :: cs =>
    if c.isDigit then
      let next := value * 10 + digitValue c
      if next ≤ bound then boundedFrom bound exceeded next cs
      else .error exceeded
    else .error .invalidDigit

/-- Digits that must be there, read up to a bound. -/
def bounded (bound : Nat) (exceeded : NumeralFault) :
    List Char → Except NumeralFault Nat
  | [] => .error .invalidDigit
  | digits => boundedFrom bound exceeded 0 digits

def maxUnsigned : Nat := UInt64.size - 1

def maxSigned : Nat := UInt64.size / 2 - 1

/-- An unsigned number of 64 bits; a plus sign is allowed. -/
def unsigned? : List Char → Except NumeralFault Nat
  | [] => .error .empty
  | '+' :: digits => bounded maxUnsigned .tooLarge digits
  | digits => bounded maxUnsigned .tooLarge digits

/-- A signed number of 64 bits; a sign is allowed. -/
def signed? : List Char → Except NumeralFault Int
  | [] => .error .empty
  | '+' :: digits => (bounded maxSigned .tooLarge digits).map Int.ofNat
  | '-' :: digits =>
    (bounded (maxSigned + 1) .tooSmall digits).map fun n => -Int.ofNat n
  | digits => (bounded maxSigned .tooLarge digits).map Int.ofNat

end Polystore.Numeral
