import Polystore.Instant.Basic
import Polystore.Json.Decode
import Polystore.Numeral.Layout
import Polystore.Text.Blank

/-!
# Written instants

Instants are written in universal time with as few of 0, 3, 6 or 9 digits of the
fraction as are exact.  They are read leniently: blanks may stand before each
number and around its separator, the parts need not have two digits, further
digits of the fraction are dropped, and any offset is applied.
-/

namespace Polystore.Instant

open Text

/-- A number with zeros in front up to `width` digits. -/
def padded (width : Nat) (value : Nat) : List Char :=
  let digits := Numeral.decimalText value
  List.replicate (width - digits.length) '0' ++ digits

/-- A year; outside four digits it carries its sign. -/
def yearText (year : Int) : List Char :=
  if 0 ≤ year && year ≤ 9999 then padded 4 year.natAbs
  else (if year < 0 then '-' else '+') :: padded 4 year.natAbs

def fractionText (nanoseconds : Nat) : List Char :=
  if nanoseconds == 0 then []
  else if nanoseconds % 1000000 == 0 then
    '.' :: padded 3 (nanoseconds / 1000000)
  else if nanoseconds % 1000 == 0 then '.' :: padded 6 (nanoseconds / 1000)
  else '.' :: padded 9 nanoseconds

def text (instant : Instant) : String :=
  let (year, month, day) := calendarDate (instant.seconds / 86400)
  let second := (instant.seconds % 86400).toNat
  let inserted := instant.nanoseconds / 1000000000
  String.ofList <|
    yearText year ++ '-' :: padded 2 month.toNat ++ '-' :: padded 2 day.toNat
      ++ 'T' :: padded 2 (second / 3600) ++ ':' :: padded 2 (second / 60 % 60)
      ++ ':' :: padded 2 (second % 60 + inserted)
      ++ fractionText (instant.nanoseconds % 1000000000) ++ ['Z']

/-- One up to `most` digits behind blanks. -/
def digits? (most : Nat) (cs : List Char) : Option (Nat × List Char) :=
  let cs := skipBlanks cs
  let digits := (cs.take most).takeWhile Char.isDigit
  if digits.isEmpty then none
  else some (Numeral.digitsValue digits, cs.drop digits.length)

/-- A year of up to four digits, or with a sign and any number of digits. -/
def year? (cs : List Char) : Option (Int × List Char) :=
  match skipBlanks cs with
  | '-' :: rest => (signed rest).map fun (value, rest) => (-(value : Int), rest)
  | '+' :: rest => (signed rest).map fun (value, rest) => ((value : Int), rest)
  | rest => (digits? 4 rest).map fun (value, rest) => ((value : Int), rest)
where
  /-- The digits right behind a sign. -/
  signed (cs : List Char) : Option (Nat × List Char) :=
    let digits := cs.takeWhile Char.isDigit
    if digits.isEmpty then none
    else some (Numeral.digitsValue digits, cs.dropWhile Char.isDigit)

/-- A separator behind blanks. -/
def separator? (expected : Char) (cs : List Char) : Option (List Char) :=
  match skipBlanks cs with
  | c :: rest => if c == expected then some rest else none
  | [] => none

/-- A part of the clock or the calendar that lies between two bounds. -/
def part? (least most : Nat) (cs : List Char) : Option (Nat × List Char) := do
  let (value, rest) ← digits? 2 cs
  if least ≤ value && value ≤ most then some (value, rest) else none

/-- The nanoseconds of a fraction, where there is one. -/
def fraction? : List Char → Option (Nat × List Char)
  | '.' :: cs =>
    let digits := cs.takeWhile Char.isDigit
    if digits.isEmpty then none
    else
      let kept := digits.take 9
      some (Numeral.digitsValue kept * Nat.pow 10 (9 - kept.length),
        cs.dropWhile Char.isDigit)
  | cs => some (0, cs)

/-- Two digits at the head of a text. -/
def twoDigits? : List Char → Option (Nat × List Char)
  | tens :: ones :: rest =>
    if tens.isDigit && ones.isDigit then
      some (Numeral.digitValue tens * 10 + Numeral.digitValue ones, rest)
    else none
  | _ => none

/-- Hours and minutes of an offset behind its sign, in seconds. -/
def offsetSize? (cs : List Char) : Option (Int × List Char) := do
  let (hours, rest) ← twoDigits? cs
  let (minutes, rest) ←
    twoDigits? (rest.dropWhile fun c => c == ':' || isBlank c)
  if minutes < 60 && hours < 24 then
    some ((hours * 3600 + minutes * 60 : Nat), rest)
  else none

/-- The distance from universal time, in seconds. -/
def offset? : List Char → Option (Int × List Char)
  | [] => none
  | c :: cs =>
    if c == 'Z' || c == 'z' then some (0, cs)
    else if equalsUtc [c] (cs.take 2) then some (0, cs.drop 2)
    else if c == '+' then offsetSize? cs
    else if c == '-' || c == '\u2212' then
      (offsetSize? cs).map fun (seconds, rest) => (-seconds, rest)
    else none
where
  /-- The name of universal time in any case. -/
  equalsUtc (first rest : List Char) : Bool :=
    (first ++ rest).map Char.toLower == ['u', 't', 'c']

/-- The instant that a text denotes. -/
def ofChars? (cs : List Char) : Option Instant := do
  let (year, cs) ← year? cs
  let cs ← separator? '-' cs
  let (month, cs) ← part? 1 12 cs
  let cs ← separator? '-' cs
  let (day, cs) ← part? 1 31 cs
  let cs ← match cs with
    | c :: rest => if c == 'T' || c == 't' || c == ' ' then some rest else none
    | [] => none
  let (hour, cs) ← part? 0 23 cs
  let cs ← separator? ':' cs
  let (minute, cs) ← part? 0 59 cs
  let cs ← separator? ':' cs
  let (second, cs) ← part? 0 60 cs
  let (nanoseconds, cs) ← fraction? cs
  let (offset, cs) ← offset? (skipBlanks cs)
  if !(skipBlanks cs).isEmpty then none
  else if year < firstYear || lastYear < year
    || daysInMonth year month < day then none
  else
    let inserted := second / 60
    let clock : Int := (hour * 3600 + minute * 60 + second - inserted : Nat)
    let instant : Instant :=
      ⟨dayNumber year month day * 86400 + clock - offset,
        nanoseconds + inserted * 1000000000⟩
    if instant.inCalendar then some instant else none

def decode (tree : Written) : Option Instant :=
  tree.text?.bind fun text => ofChars? text.toList

def json (instant : Instant) : Json :=
  .string instant.text

end Polystore.Instant
