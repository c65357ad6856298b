/-!
# Blanks and parts of texts

The characters with the white-space property, and the ways in which a text is
cut at them.  Two classes are kept apart: all blanks, at which words and
conditions end, and the blanks of ASCII, which alone delimit a keyword inside a
condition.  One text may also stand somewhere in another.
-/

namespace Polystore.Text

/-- A character with the white-space property. -/
def isBlank (c : Char) : Bool :=
  let n := c.toNat
  (0x09 ≤ n && n ≤ 0x0d) || n == 0x20 || n == 0x85 || n == 0xa0 || n == 0x1680
    || (0x2000 ≤ n && n ≤ 0x200a) || n == 0x2028 || n == 0x2029 || n == 0x202f
    || n == 0x205f || n == 0x3000

/-- Space, tab, line feed, form feed and carriage return. -/
def isAsciiBlank (c : Char) : Bool :=
  c == ' ' || c == '\t' || c == '\n' || c == '\x0c' || c == '\r'

/-- The text without its leading blanks. -/
def skipBlanks (cs : List Char) : List Char :=
  cs.dropWhile isBlank

/-- The text without its trailing blanks. -/
def dropTrailingBlanks (cs : List Char) : List Char :=
  (skipBlanks cs.reverse).reverse

/-- The text without blanks at either end. -/
def trim (cs : List Char) : List Char :=
  dropTrailingBlanks (skipBlanks cs)

/-- What follows one or more blanks. -/
def afterBlanks? : List Char → Option (List Char)
  | [] => none
  | c :: cs => if isBlank c then some (skipBlanks cs) else none

/-- The maximal runs of characters that are not blank, in order. -/
def words : List Char → List (List Char)
  | [] => []
  | c :: cs =>
    if isBlank c then words cs
    else
      match cs, words cs with
      | next :: _, word :: rest =>
        if isBlank next then [c] :: word :: rest else (c :: word) :: rest
      | _, rest => [c] :: rest

/-- Words put together with single spaces between them. -/
def unwords : List (List Char) → List Char
  | [] => []
  | [word] => word
  | word :: rest => word ++ ' ' :: unwords rest

/-- The needle stands somewhere in the text. -/
def occursIn (needle : List Char) : List Char → Bool
  | [] => needle.isEmpty
  | c :: cs => needle.isPrefixOf (c :: cs) || occursIn needle cs

/-- A text without blanks at either end. -/
def trimmed (text : String) : String :=
  String.ofList (trim text.toList)

end Polystore.Text
