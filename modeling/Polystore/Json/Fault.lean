/-!
# Faults of document texts

Why a text is no document, and where reading stopped.  Lines and columns count
from one, columns in bytes.
-/

namespace Polystore

/-- Why a text is no document. -/
inductive ReadReason where
  | endInList
  | endInObject
  | endInString
  | endInValue
  | expectedColon
  | expectedListSeparator
  | expectedObjectSeparator
  | expectedLiteral
  | expectedValue
  | invalidEscape
  | invalidNumber
  | numberOutOfRange
  | controlCharacter
  | keyNotString
  | loneSurrogate
  | trailingComma
  | trailingCharacters
  | brokenSurrogatePair
  | tooDeep
deriving DecidableEq, Repr

def ReadReason.message : ReadReason → String
  | .endInList => "EOF while parsing a list"
  | .endInObject => "EOF while parsing an object"
  | .endInString => "EOF while parsing a string"
  | .endInValue => "EOF while parsing a value"
  | .expectedColon => "expected `:`"
  | .expectedListSeparator => "expected `,` or `]`"
  | .expectedObjectSeparator => "expected `,` or `\x7d`"
  | .expectedLiteral => "expected ident"
  | .expectedValue => "expected value"
  | .invalidEscape => "invalid escape"
  | .invalidNumber => "invalid number"
  | .numberOutOfRange => "number out of range"
  | .controlCharacter =>
    "control character (\\u0000-\\u001F) found while parsing a string"
  | .keyNotString => "key must be a string"
  | .loneSurrogate => "lone leading surrogate in hex escape"
  | .trailingComma => "trailing comma"
  | .trailingCharacters => "trailing characters"
  | .brokenSurrogatePair => "unexpected end of hex escape"
  | .tooDeep => "recursion limit exceeded"

/-- A reason together with the number of bytes that were left unread. -/
structure ReadFault where
  reason : ReadReason
  unread : Nat
deriving DecidableEq, Repr

def byteLength (cs : List Char) : Nat :=
  cs.foldl (fun total c => total + c.utf8Size) 0

/-- Line and column after the given number of bytes, starting from a line and a
column. -/
def positionFrom (line column : Nat) : Nat → List Char → Nat × Nat
  | _, [] => (line, column)
  | bytes, c :: cs =>
    if bytes < c.utf8Size then (line, column + bytes)
    else if c == '\n' then positionFrom (line + 1) 0 (bytes - c.utf8Size) cs
    else positionFrom line (column + c.utf8Size) (bytes - c.utf8Size) cs

def ReadFault.message (fault : ReadFault) (cs : List Char) : String :=
  let (line, column) := positionFrom 1 0 (byteLength cs - fault.unread) cs
  fault.reason.message ++ " at line " ++ toString line
    ++ " column " ++ toString column

end Polystore
