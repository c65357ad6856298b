import Polystore.Numeral.Bounded

/-!
# Reading binary floating point numbers

A decimal text stands for the float nearest to its value.  The text may leave
out the digits on one side of the point, may have an exponent, and may name
infinity or the value that is no number.
-/

namespace Polystore.Numeral

def infinity : Float := 1.0 / 0.0

/-- The value that is no number. -/
def notANumber : Float := 0.0 / 0.0

/-- The float nearest to `significand * 10 ^ exponent`.  Beyond 400 places to
either side the answer is known without computing the power. -/
def nearest (significand : Nat) (exponent : Int) : Float :=
  let places := (Nat.toDigits 10 significand).length
  if significand == 0 || exponent + places < -400 then 0.0
  else if exponent + places > 400 then infinity
  else Float.ofScientific significand (exponent < 0) exponent.natAbs

/-- A sign, where there is one, and the rest; `true` stands for minus. -/
def splitSign : List Char → Bool × List Char
  | '-' :: cs => (true, cs)
  | '+' :: cs => (false, cs)
  | cs => (false, cs)

/-- The exponent that ends a number: nothing, or the mark, a sign and at least
one digit. -/
def exponent? : List Char → Option Int
  | [] => some 0
  | mark :: cs =>
    if mark == 'e' || mark == 'E' then
      let (negative, digits) := splitSign cs
      if digits.isEmpty || !digits.all Char.isDigit then none
      else
        let value : Int := digitsValue digits
        some (if negative then -value else value)
    else none

/-- The fraction behind the whole digits and what follows it. -/
def splitFraction : List Char → List Char × List Char
  | '.' :: cs => (cs.takeWhile Char.isDigit, cs.dropWhile Char.isDigit)
  | cs => ([], cs)

/-- An unsigned number in decimal or exponent form, with a digit on one side of
the point. -/
def magnitude? (cs : List Char) : Option Float :=
  let whole := cs.takeWhile Char.isDigit
  let (fraction, rest) := splitFraction (cs.dropWhile Char.isDigit)
  if whole.isEmpty && fraction.isEmpty then none
  else
    (exponent? rest).map fun exponent =>
      nearest (digitsValue (whole ++ fraction)) (exponent - fraction.length)

/-- The names of the special values, in any case of letters. -/
def special? (cs : List Char) : Option Float :=
  let name := String.ofList (cs.map Char.toLower)
  if name == "inf" || name == "infinity" then some infinity
  else if name == "nan" then some notANumber
  else none

/-- The float that a text stands for. -/
def float? (cs : List Char) : Option Float :=
  let (negative, unsigned) := splitSign cs
  ((magnitude? unsigned).or (special? unsigned)).map fun value =>
    if negative then -value else value

end Polystore.Numeral
