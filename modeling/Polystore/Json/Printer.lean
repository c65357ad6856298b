import Polystore.Json.Basic
import Polystore.Numeral.Layout

/-!
# Document text

The compact text of a document value, without blanks between its parts.  Inside
a string only the quotation mark, the backslash and the control characters are
escaped.
-/

namespace Polystore

def hexDigit (value : Nat) : Char :=
  Nat.digitChar value

namespace Json

/-- A character inside a quoted string. -/
def escaped (c : Char) : List Char :=
  if c == '"' then ['\\', '"']
  else if c == '\\' then ['\\', '\\']
  else if c == '\x08' then ['\\', 'b']
  else if c == '\t' then ['\\', 't']
  else if c == '\n' then ['\\', 'n']
  else if c == '\x0c' then ['\\', 'f']
  else if c == '\r' then ['\\', 'r']
  else if c.toNat < 0x20 then
    ['\\', 'u', '0', '0', hexDigit (c.toNat / 16), hexDigit (c.toNat % 16)]
  else [c]

/-- A string between quotation marks. -/
def quoted (text : String) : List Char :=
  '"' :: (text.toList.flatMap escaped ++ ['"'])

def commaSeparated : List (List Char) → List Char
  | [] => []
  | [text] => text
  | text :: rest => text ++ ',' :: commaSeparated rest

mutual

/-- The characters of the compact text. -/
def chars : Json → List Char
  | .null => "null".toList
  | .bool true => "true".toList
  | .bool false => "false".toList
  | .integer value => (Numeral.integerText value).toList
  | .float value =>
    if value.isFinite then (Numeral.documentFloat value).toList
    else "null".toList
  | .string value => quoted value
  | .array items => '[' :: (commaSeparated (itemChars items) ++ [']'])
  | .object fields => '\x7b' :: (commaSeparated (fieldChars fields) ++ ['\x7d'])

def itemChars : List Json → List (List Char)
  | [] => []
  | item :: items => chars item :: itemChars items

def fieldChars : List (String × Json) → List (List Char)
  | [] => []
  | (key, value) :: fields =>
    (quoted key ++ ':' :: chars value) :: fieldChars fields

end

def text (value : Json) : String :=
  String.ofList (chars value)

end Json

end Polystore
