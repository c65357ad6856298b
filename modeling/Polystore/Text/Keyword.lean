import Polystore.Text.Word

/-!
# Keywords and names at the head of a text

Statements are recognised from their first words.  A keyword is compared letter
by letter with case ignored, and a name is a maximal run of word characters.
-/

namespace Polystore.Text

/-- The character is the small letter `letter` in either case.  Outside ASCII,
the long s folds to `s` and the kelvin sign to `k`. -/
def foldsTo (letter c : Char) : Bool :=
  c.toLower == letter || (letter == 's' && c == 'ſ') ||
    (letter == 'k' && c == '\u212a')

/-- What follows the keyword, given in small letters, when the text begins with
it in any case. -/
def afterKeyword? : List Char → List Char → Option (List Char)
  | [], cs => some cs
  | _ :: _, [] => none
  | letter :: keyword, c :: cs =>
    if foldsTo letter c then afterKeyword? keyword cs else none

/-- The whole text is the keyword, in any case. -/
def isKeyword (keyword : List Char) (cs : List Char) : Bool :=
  afterKeyword? keyword cs == some []

/-- What follows `start` when the text begins with exactly these characters. -/
def after? : List Char → List Char → Option (List Char)
  | [], cs => some cs
  | _ :: _, [] => none
  | expected :: start, c :: cs =>
    if c == expected then after? start cs else none

/-- The name at the head of the text and what follows it. -/
def name? (cs : List Char) : Option (List Char × List Char) :=
  match cs.takeWhile isWord with
  | [] => none
  | name => some (name, cs.dropWhile isWord)

/-- ASCII letters are compared with case ignored, other characters exactly. -/
def equalsIgnoringAsciiCase (cs ds : List Char) : Bool :=
  cs.map Char.toLower == ds.map Char.toLower

end Polystore.Text
