import Polystore.Numeral.Shortest

/-!
# Written forms of floats

Two written forms share the shortest digits of a float.  The notation of
documents always shows that the number is no integer and turns to an exponent
for very large and very small values; plain notation writes every place and no
superfluous point.
-/

namespace Polystore.Numeral

/-- How a float is written once its digits are known. -/
structure FloatNotation where
  /-- Positions of the point, counted from the first digit, that are written
  without exponent. -/
  positional : Option (Int × Int)
  /-- A whole value keeps a point and a zero behind it. -/
  keepsPoint : Bool

/-- From `1e-5` up to below `1e16` without exponent, and always with a point or
an exponent. -/
def documentNotation : FloatNotation :=
  ⟨some (-4, 16), true⟩

/-- Every place is written, and whole values have no point. -/
def plainNotation : FloatNotation :=
  ⟨none, false⟩

def decimalText (n : Nat) : List Char :=
  Nat.toDigits 10 n

def integerText (n : Int) : String :=
  String.ofList
    (if n < 0 then '-' :: decimalText n.natAbs else decimalText n.natAbs)

/-- The digits with the point behind the first `point` of them, or zeros where
there are none. -/
def FloatNotation.positionalText (form : FloatNotation) (digits : List Char)
    (point : Int) : List Char :=
  if point ≤ 0 then '0' :: '.' :: (List.replicate (-point).toNat '0' ++ digits)
  else
    let whole := digits.take point.toNat
    let zeros := List.replicate (point.toNat - digits.length) '0'
    let fraction := digits.drop point.toNat
    if !fraction.isEmpty then whole ++ '.' :: fraction
    else if form.keepsPoint then whole ++ zeros ++ ['.', '0']
    else whole ++ zeros

/-- The digits with one place before the point and a signed exponent. -/
def exponentText (digits : List Char) (exponent : Int) : List Char :=
  let sign := if exponent < 0 then '-' else '+'
  let tail := 'e' :: sign :: decimalText exponent.natAbs
  match digits with
  | [] => tail
  | [digit] => digit :: tail
  | digit :: rest => digit :: '.' :: (rest ++ tail)

/-- The written form of a decimal. -/
def FloatNotation.text (form : FloatNotation) (value : Decimal) : List Char :=
  if value.significand == 0 then
    if form.keepsPoint then ['0', '.', '0'] else ['0']
  else
    let digits := decimalText value.significand
    let point : Int := digits.length + value.exponent
    match form.positional with
    | none => form.positionalText digits point
    | some (first, last) =>
      if first ≤ point && point ≤ last then form.positionalText digits point
      else exponentText digits (point - 1)

def isNegative (x : Float) : Bool :=
  x.toBits >>> 63 == 1

/-- The written form of a finite float. -/
def FloatNotation.finite (form : FloatNotation) (x : Float) : String :=
  let body := form.text (Dyadic.ofFloat x).shortest
  String.ofList (if isNegative x then '-' :: body else body)

/-- A finite float as documents hold it. -/
def documentFloat (x : Float) : String :=
  documentNotation.finite x

/-- A float in plain notation, the special values by their names. -/
def plainFloat (x : Float) : String :=
  if x.isNaN then "NaN"
  else if x.isInf then if isNegative x then "-inf" else "inf"
  else plainNotation.finite x

/-- The whole number nearest to a quotient; a half goes to the even
neighbour. -/
def roundHalfEven (numerator denominator : Nat) : Nat :=
  let below := numerator / denominator
  let left := numerator % denominator
  if 2 * left < denominator
    || (2 * left == denominator && below % 2 == 0) then below
  else below + 1

/-- A float without places behind the point; a half goes to the even
neighbour. -/
def wholeFloat (x : Float) : String :=
  if !x.isFinite then plainFloat x
  else
    let value := Dyadic.ofFloat x
    let (up, down) := powerOfTwo value.exponent
    let body := decimalText (roundHalfEven (value.mantissa * up) down)
    String.ofList (if isNegative x then '-' :: body else body)

end Polystore.Numeral
