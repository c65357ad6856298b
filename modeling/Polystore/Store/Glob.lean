/-!
# Patterns of keys

A star in a pattern stands for any run of characters that stay on one line.  All
other characters stand for themselves.
-/

namespace Polystore.Glob

/-- What can be left of a key behind a run of characters on one line. -/
def remainders : List Char → List (List Char)
  | [] => [[]]
  | c :: cs => (c :: cs) :: if c == '\n' then [] else remainders cs

/-- The pattern matches the whole key.  Of several stars in a row one is
enough. -/
def accepts : List Char → List Char → Bool
  | [], key => key.isEmpty
  | '*' :: pattern, key =>
    if pattern.head? == some '*' then accepts pattern key
    else (remainders key).any (accepts pattern)
  | expected :: pattern, key =>
    match key with
    | [] => false
    | c :: rest => c == expected && accepts pattern rest

def matchesKey (pattern key : String) : Bool :=
  accepts pattern.toList key.toList

/-- The text has a star and so is a pattern. -/
def isPattern (text : String) : Bool :=
  text.toList.contains '*'

end Polystore.Glob
