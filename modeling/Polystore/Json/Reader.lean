import Polystore.Json.Fault
import Polystore.Json.Written
import Polystore.Numeral.Binary64

/-!
# Reading documents

A recursive descent over the characters of a text.  The first fault in reading
order is reported.  A strict reading refuses numbers beyond the floats, halves
of surrogate pairs and more than 127 levels of nesting; a lenient one keeps the
first two as unreadable parts and nests freely.
-/

namespace Polystore.Reading

open Numeral

/-- What is still to be read. -/
abbrev Rest := List Char

/-- The outcome of reading a part: mostly its value and the rest behind it, or
else a fault. -/
abbrev Attempt := Except ReadFault

/-- The fault of having met the first byte of `cs`. -/
def stopAt {α : Type} (reason : ReadReason) (cs : List Char) : Attempt α :=
  .error ⟨reason, byteLength cs - 1⟩

/-- The fault of standing in front of `cs`. -/
def stopBefore {α : Type} (reason : ReadReason) (cs : List Char) : Attempt α :=
  .error ⟨reason, byteLength cs⟩

/-- The blanks between the parts of a document. -/
def isSeparator (c : Char) : Bool :=
  c == ' ' || c == '\n' || c == '\t' || c == '\r'

/-- The text without leading separators. -/
def skip (cs : List Char) : List Char :=
  cs.dropWhile isSeparator

/-- The rest of a literal name. -/
def literal (value : Written) : List Char → List Char → Attempt (Written × Rest)
  | [], cs => .ok (value, cs)
  | _ :: _, [] => .error ⟨.endInValue, 0⟩
  | expected :: name, c :: cs =>
    if c == expected then literal value name cs
    else stopAt .expectedLiteral (c :: cs)

/-- A scaled significand that still fits an unsigned word. -/
structure Scaled where
  significand : Nat
  exponent : Int

/-- Digits before the point; once the word is full, further digits only raise
the exponent. -/
def Scaled.addWhole (full : Bool) (value : Scaled) : List Char → Bool × Scaled
  | [] => (full, value)
  | c :: cs =>
    let next := value.significand * 10 + digitValue c
    if full || next > maxUnsigned then
      addWhole true { value with exponent := value.exponent + 1 } cs
    else addWhole false { value with significand := next } cs

/-- Digits behind the point; once the word is full, further digits are
dropped. -/
def Scaled.addFraction (value : Scaled) : List Char → Scaled
  | [] => value
  | c :: cs =>
    let next := value.significand * 10 + digitValue c
    if next > maxUnsigned then value
    else addFraction ⟨next, value.exponent - 1⟩ cs

/-- Repeated scaling by powers of ten that are floats; absent when the result is
infinite. -/
def scaleBy (value : Float) (exponent : Int) : Nat → Option Float
  | 0 => some value
  | steps + 1 =>
    if exponent.natAbs ≤ 308 then
      let power := Float.ofScientific 1 false exponent.natAbs
      if exponent < 0 then some (value / power)
      else if (value * power).isInf then none
      else some (value * power)
    else if value == 0.0 then some value
    else if exponent < 0 then
      scaleBy (value / Float.ofScientific 1 false 308) (exponent + 308) steps
    else none

/-- The float of a scaled significand.  Three steps bring any significand down
to zero. -/
def Scaled.float (value : Scaled) : Option Float :=
  scaleBy (Float.ofNat value.significand) value.exponent 4

/-- A readable number, or the treatment of one that is out of range. -/
def floatResult (strict negative : Bool) (value : Option Float)
    (rest : List Char) : Attempt (Written × Rest) :=
  match value with
  | some magnitude =>
    .ok (.float (if negative then -magnitude else magnitude), rest)
  | none =>
    if strict then stopBefore .numberOutOfRange rest
    else .ok (.unreadable, rest)

/-- The largest exponent that is kept while its digits are read. -/
def maxExponent : Nat := UInt32.size / 2 - 1

/-- The digits of an exponent; absent, with the rest, once the value is too
large to be kept. -/
def exponentDigits (value : Nat) : List Char → Option Nat × List Char
  | [] => (some value, [])
  | c :: cs =>
    if c.isDigit then
      let next := value * 10 + digitValue c
      if next > maxExponent then (none, cs) else exponentDigits next cs
    else (some value, c :: cs)

/-- A number from its exponent on; `cs` stands behind the exponent mark. -/
def withExponent (strict negative : Bool) (value : Scaled) (cs : List Char) :
    Attempt (Written × Rest) :=
  let (falling, digits) := splitSign cs
  match digits with
  | [] => .error ⟨.endInValue, 0⟩
  | c :: _ =>
    if !c.isDigit then stopAt .invalidNumber digits
    else
      match exponentDigits 0 digits with
      | (some exponent, rest) =>
        let total :=
          if falling then value.exponent - exponent
          else value.exponent + exponent
        floatResult strict negative ({ value with exponent := total }.float)
          rest
      | (none, rest) =>
        if falling || value.significand == 0 then
          floatResult strict negative (some 0.0) (rest.dropWhile Char.isDigit)
        else if strict then stopBefore .numberOutOfRange rest
        else .ok (.unreadable, rest.dropWhile Char.isDigit)

/-- A number from the point on, or from what stands in its place. -/
def withFraction (strict negative : Bool) (value : Scaled) (cs : List Char) :
    Attempt (Written × Rest) :=
  let fraction := cs.takeWhile Char.isDigit
  let rest := cs.dropWhile Char.isDigit
  if fraction.isEmpty then
    match rest with
    | [] => .error ⟨.endInValue, 0⟩
    | _ :: _ => stopAt .invalidNumber rest
  else
    let value := value.addFraction fraction
    match rest with
    | 'e' :: cs => withExponent strict negative value cs
    | 'E' :: cs => withExponent strict negative value cs
    | _ => floatResult strict negative value.float rest

/-- A whole number; a negative zero and what exceeds the words are floats. -/
def wholeNumber (negative : Bool) (value : Nat) : Written :=
  if !negative then .integer value
  else if value == 0 || value > maxSigned + 1 then .float (-Float.ofNat value)
  else .integer (-value)

/-- A number whose whole digits have been read. -/
def afterWhole (strict negative : Bool) (digits rest : List Char) :
    Attempt (Written × Rest) :=
  let (full, value) := Scaled.addWhole false ⟨0, 0⟩ digits
  match rest with
  | '.' :: cs => withFraction strict negative value cs
  | 'e' :: cs => withExponent strict negative value cs
  | 'E' :: cs => withExponent strict negative value cs
  | _ =>
    if full then floatResult strict negative value.float rest
    else .ok (wholeNumber negative value.significand, rest)

/-- A number behind its sign.  A zero is not followed by further digits. -/
def number (strict negative : Bool) : List Char → Attempt (Written × Rest)
  | [] => .error ⟨.endInValue, 0⟩
  | '0' :: cs =>
    match cs with
    | [] => afterWhole strict negative ['0'] []
    | c :: rest =>
      if c.isDigit then stopAt .invalidNumber (c :: rest)
      else afterWhole strict negative ['0'] (c :: rest)
  | c :: cs =>
    if c.isDigit then
      afterWhole strict negative ((c :: cs).takeWhile Char.isDigit)
        ((c :: cs).dropWhile Char.isDigit)
    else stopAt .invalidNumber (c :: cs)

/-- The value of a hexadecimal digit of either case. -/
def hexValue? (c : Char) : Option Nat :=
  if c.isDigit then some (c.toNat - 48)
  else if 'a' ≤ c && c ≤ 'f' then some (c.toNat - 87)
  else if 'A' ≤ c && c ≤ 'F' then some (c.toNat - 55)
  else none

def hexUnit (cs : List Char) : Attempt (Nat × Rest) :=
  if byteLength cs < 4 then .error ⟨.endInString, 0⟩
  else
    match (cs.take 4).mapM hexValue? with
    | some digits =>
      .ok (digits.foldl (fun value digit => value * 16 + digit) 0, cs.drop 4)
    | none => .error ⟨.invalidEscape, byteLength cs - 4⟩

/-- The next character has to be `expected` for a surrogate pair to go on. -/
def pairMark (expected : Char) : List Char → Attempt Rest
  | [] => .error ⟨.endInString, 0⟩
  | c :: cs =>
    if c == expected then .ok cs else stopAt .brokenSurrogatePair (c :: cs)

/-- The second half of a surrogate pair whose first half is `high`. -/
def lowSurrogate (high : Nat) (cs : List Char) : Attempt (Char × Rest) := do
  let cs ← pairMark '\\' cs
  let cs ← pairMark 'u' cs
  let (low, rest) ← hexUnit cs
  if low < 0xdc00 || 0xdfff < low then stopBefore .loneSurrogate rest
  else .ok (Char.ofNat (0x10000 + (high - 0xd800) * 0x400 + (low - 0xdc00)),
    rest)

/-- The character of a hexadecimal escape.  In a lenient reading a half of a
surrogate pair stands for no character, and what follows it is left to be read
by itself. -/
def hexEscape (strict : Bool) (cs : List Char) :
    Attempt (Option Char × Rest) := do
  let (unit, rest) ← hexUnit cs
  if unit < 0xd800 || 0xdfff < unit then .ok (some (Char.ofNat unit), rest)
  else
    let pair : Attempt (Char × Rest) :=
      if 0xdc00 ≤ unit then stopBefore .loneSurrogate rest
      else lowSurrogate unit rest
    match pair with
    | .ok (c, rest) => .ok (some c, rest)
    | .error fault => if strict then .error fault else .ok (none, rest)

/-- The character of an escape; `cs` stands behind the backslash. -/
def escape (strict : Bool) : List Char → Attempt (Option Char × Rest)
  | [] => .error ⟨.endInString, 0⟩
  | 'u' :: cs => hexEscape strict cs
  | '"' :: cs => .ok (some '"', cs)
  | '\\' :: cs => .ok (some '\\', cs)
  | '/' :: cs => .ok (some '/', cs)
  | 'b' :: cs => .ok (some '\x08', cs)
  | 'f' :: cs => .ok (some '\x0c', cs)
  | 'n' :: cs => .ok (some '\n', cs)
  | 'r' :: cs => .ok (some '\r', cs)
  | 't' :: cs => .ok (some '\t', cs)
  | c :: cs => stopAt .invalidEscape (c :: cs)

/-- The characters of a string up to its closing quotation mark, behind those
already read (last one first).  Absent when a part of the string stands for no
character. -/
def stringFrom (strict : Bool) (soFar : Option (List Char)) :
    Nat → List Char → Attempt (Option String × Rest)
  | 0, cs => stopBefore .endInString cs
  | _ + 1, [] => .error ⟨.endInString, 0⟩
  | _ + 1, '"' :: cs =>
    .ok (soFar.map fun read => String.ofList read.reverse, cs)
  | steps + 1, '\\' :: cs => do
    let (c, rest) ← escape strict cs
    let soFar := do return (← c) :: (← soFar)
    stringFrom strict soFar steps rest
  | steps + 1, c :: cs =>
    if c.toNat < 0x20 then stopAt .controlCharacter (c :: cs)
    else stringFrom strict (soFar.map (c :: ·)) steps cs

def string (strict : Bool) (cs : List Char) : Attempt (Option String × Rest) :=
  stringFrom strict (some []) (cs.length + 1) cs

def colon (cs : List Char) : Attempt Rest :=
  match skip cs with
  | [] => .error ⟨.endInObject, 0⟩
  | ':' :: rest => .ok rest
  | rest => stopAt .expectedColon rest

mutual

/-- A value, at most `depth` levels deep when there is such a limit. -/
def value (strict : Bool) (depth : Nat) :
    Nat → List Char → Attempt (Written × Rest)
  | 0, cs => stopBefore .endInValue cs
  | steps + 1, cs =>
    match skip cs with
    | [] => .error ⟨.endInValue, 0⟩
    | 'n' :: rest => literal .null ['u', 'l', 'l'] rest
    | 't' :: rest => literal (.bool true) ['r', 'u', 'e'] rest
    | 'f' :: rest => literal (.bool false) ['a', 'l', 's', 'e'] rest
    | '-' :: rest => number strict true rest
    | '"' :: rest => do
      let (text, rest) ← string strict rest
      return (text.elim .unreadable .string, rest)
    | '[' :: rest =>
      if strict && depth ≤ 1 then stopAt .tooDeep ('[' :: rest)
      else do
        let (values, rest) ← items strict (depth - 1) true steps rest
        return (.array values, rest)
    | '\x7b' :: rest =>
      if strict && depth ≤ 1 then stopAt .tooDeep ('\x7b' :: rest)
      else do
        let (values, rest) ← fields strict (depth - 1) true steps rest
        return (.object values, rest)
    | c :: rest =>
      if c.isDigit then number strict false (c :: rest)
      else stopAt .expectedValue (c :: rest)

def items (strict : Bool) (depth : Nat) (first : Bool) :
    Nat → List Char → Attempt (List Written × Rest)
  | 0, cs => stopBefore .endInList cs
  | steps + 1, cs =>
    match skip cs with
    | [] => .error ⟨.endInList, 0⟩
    | ']' :: rest => .ok ([], rest)
    | c :: rest =>
      let item (start : List Char) : Attempt (List Written × Rest) := do
        let (head, rest) ← value strict depth steps start
        let (tail, rest) ← items strict depth false steps rest
        return (head :: tail, rest)
      if first then item (c :: rest)
      else if c == ',' then
        match skip rest with
        | [] => .error ⟨.endInValue, 0⟩
        | ']' :: rest => stopAt .trailingComma (']' :: rest)
        | start => item start
      else stopAt .expectedListSeparator (c :: rest)

def fields (strict : Bool) (depth : Nat) (first : Bool) :
    Nat → List Char → Attempt (List (Option String × Written) × Rest)
  | 0, cs => stopBefore .endInObject cs
  | steps + 1, cs =>
    match skip cs with
    | [] => .error ⟨.endInObject, 0⟩
    | '\x7d' :: rest => .ok ([], rest)
    | c :: rest =>
      let field (start : List Char) :
          Attempt (List (Option String × Written) × Rest) :=
        match start with
        | [] => .error ⟨.endInValue, 0⟩
        | '"' :: rest => do
          let (key, rest) ← string strict rest
          let rest ← colon rest
          let (head, rest) ← value strict depth steps rest
          let (tail, rest) ← fields strict depth false steps rest
          return ((key, head) :: tail, rest)
        | '\x7d' :: rest => stopAt .trailingComma ('\x7d' :: rest)
        | start => stopAt .keyNotString start
      if first then field (c :: rest)
      else if c == ',' then field (skip rest)
      else stopAt .expectedObjectSeparator (c :: rest)

end

/-- A whole text as one value.  At most two steps are taken for each
character. -/
def document (strict : Bool) (cs : List Char) : Attempt Written := do
  let (tree, rest) ← value strict 128 (2 * cs.length + 4) cs
  match skip rest with
  | [] => return tree
  | rest => stopAt .trailingCharacters rest

end Polystore.Reading

namespace Polystore

/-- The tree of a text, with unreadable parts. -/
def Written.ofText? (text : String) : Option Written :=
  (Reading.document false text.toList).toOption

/-- The document value of a text. -/
def Json.read (text : String) : Except ReadFault Json :=
  (Reading.document true text.toList).map Written.json

end Polystore
