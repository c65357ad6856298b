import Polystore.Numeral.Layout
import Polystore.Text.Blank
import Polystore.Text.Lowercase

/-!
# Signatures

Queries of one shape share a signature, under which their cost is learned.  It
is a hash of the normalised text, and it is the same on every machine, because
it is kept on disk.
-/

namespace Polystore

/-- The name of a group of queries. -/
structure Signature where
  text : String
deriving DecidableEq, Repr, Inhabited

namespace Signature

open Text

/-- The number of characters that a signature looks at. -/
def textLimit : Nat := 100

/-- The words in lower case with single spaces between them, cut after the
limit. -/
def normalizeChars (cs : List Char) : List Char :=
  (lower (unwords (words cs))).take textLimit

def normalize (query : String) : String :=
  String.ofList (normalizeChars query.toList)

/-- The units of a character in the 16-bit encoding. -/
def units (c : Char) : List Nat :=
  if c.toNat < 0x10000 then [c.toNat]
  else
    let offset := c.toNat - 0x10000
    [0xd800 + offset / 0x400, 0xdc00 + offset % 0x400]

/-- The rolling hash of 32 bits with multiplier 31. -/
def hashUnits (units : List Nat) : BitVec 32 :=
  units.foldl (fun hash unit => hash * 31#32 + BitVec.ofNat 32 unit) 0#32

/-- The signature of a query: the absolute value of the hash taken as a signed
number. -/
def ofQuery (query : String) : Signature :=
  let hash := hashUnits ((normalizeChars query.toList).flatMap units)
  ⟨"q_" ++ String.ofList (Numeral.decimalText hash.toInt.natAbs)⟩

end Signature

end Polystore
