import Polystore.Json.Decode
import Polystore.Json.Printer
import Polystore.Json.Reader

/-!
# Record identifiers

A record is identified by 128 bits.  They are written as 32 hexadecimal digits
in groups of 8, 4, 4, 4 and 12, and are read in that form, without hyphens, in
braces or as a resource name.
-/

namespace Polystore

structure RecordId where
  value : Nat
deriving DecidableEq, Repr

namespace RecordId

/-- The identifier that 122 random bits give; the other six tell that they are
random. -/
def ofRandom (bits : Nat) : RecordId :=
  let high := bits >>> 74 % 0x1000000000000
  let middle := bits >>> 62 % 0x1000
  let low := bits % 0x4000000000000000
  ⟨(((high * 16 + 4) * 0x1000 + middle) * 4 + 2) * 0x4000000000000000 + low⟩

/-- The last `count` hexadecimal digits of a number, in front of `tail`. -/
def hexDigits (value : Nat) : Nat → List Char → List Char
  | 0, tail => tail
  | count + 1, tail =>
    hexDigits (value / 16) count (hexDigit (value % 16) :: tail)

/-- Digits cut into groups of the given sizes. -/
def groups : List Nat → List Char → List (List Char)
  | [], _ => []
  | size :: sizes, digits => digits.take size :: groups sizes (digits.drop size)

/-- The sizes of the groups of digits. -/
def groupSizes : List Nat := [8, 4, 4, 4, 12]

def text (id : RecordId) : String :=
  String.ofList
    (['-'].intercalate (groups groupSizes (hexDigits id.value 32 [])))

/-- Exactly 32 hexadecimal digits. -/
def ofDigits? (digits : List Char) : Option RecordId :=
  if digits.length == 32 then
    (digits.mapM Reading.hexValue?).map fun values =>
      ⟨values.foldl (fun value digit => value * 16 + digit) 0⟩
  else none

/-- The digits of a hyphenated text. -/
def unhyphenated? : List Nat → List Char → Option (List Char)
  | [], _ => none
  | [size], cs => if cs.length == size then some cs else none
  | size :: sizes, cs =>
    match cs.drop size with
    | '-' :: rest => (unhyphenated? sizes rest).map (cs.take size ++ ·)
    | _ => none

def ofChars? (cs : List Char) : Option RecordId :=
  if cs.length == 32 then ofDigits? cs
  else
    let hyphenated :=
      match cs with
      | '\x7b' :: rest =>
        if rest.getLast? == some '\x7d' then rest.dropLast else []
      | 'u' :: 'r' :: 'n' :: ':' :: 'u' :: 'u' :: 'i' :: 'd' :: ':' :: rest =>
        rest
      | _ => cs
    (unhyphenated? groupSizes hyphenated).bind ofDigits?

def decode (tree : Written) : Option RecordId :=
  tree.text?.bind fun text => ofChars? text.toList

end RecordId

end Polystore
