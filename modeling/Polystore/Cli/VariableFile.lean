import Polystore.Settings
import Polystore.Text.Alphanumeric

/-!
# Files of variables

Each line of the file gives a variable a value, for those variables that have
none yet.  Values may be quoted, may refer to variables that are already known,
and end before a comment.  Reading stops at the first line that cannot be read;
the lines before it count.
-/

namespace Polystore.Cli.VariableFile

/-- Where the reader of a value is.  The flag tells whether it is between double
quotes. -/
inductive Place where
  | text (quoted : Bool)
  /-- Between single quotes, where nothing has a meaning of its own. -/
  | single
  | escape (quoted : Bool)
  /-- In the name behind a dollar sign. -/
  | reference (quoted : Bool) (name : List Char)
  /-- In a name between braces. -/
  | braced (quoted : Bool) (name : List Char)
  /-- Behind the value. -/
  | behind
deriving DecidableEq, Repr

/-- The value of a variable that is referred to; an unknown one has none. -/
def referred (environment : Settings.Environment) (name : List Char) :
    List Char :=
  ((environment (String.ofList name)).getD "").toList

/-- The character for which an escaped one stands. -/
def escaped? (c : Char) : Option Char :=
  if c == 'n' then some '\n'
  else if ['\\', '\'', '"', '$', ' '].contains c then some c
  else none

/-- The rest of a value from a place on. -/
def valueFrom (environment : Settings.Environment) :
    Place → List Char → Option (List Char)
  | .text quoted, [] => if quoted then none else some []
  | .single, [] => none
  | .escape quoted, [] => if quoted then none else some []
  | .reference quoted name, [] =>
    if quoted then none else some (referred environment name)
  | .braced _ _, [] => none
  | .behind, [] => some []
  | .text quoted, c :: cs =>
    if c == '$' then valueFrom environment (.reference quoted []) cs
    else if c == '\\' then valueFrom environment (.escape quoted) cs
    else if c == '"' then valueFrom environment (.text !quoted) cs
    else if quoted then (valueFrom environment (.text quoted) cs).map (c :: ·)
    else if c == '\'' then valueFrom environment .single cs
    else if c == ' ' || c == '\t' then valueFrom environment .behind cs
    else (valueFrom environment (.text quoted) cs).map (c :: ·)
  | .single, c :: cs =>
    if c == '\'' then valueFrom environment (.text false) cs
    else (valueFrom environment .single cs).map (c :: ·)
  | .escape quoted, c :: cs => do
    let c ← escaped? c
    return c :: (← valueFrom environment (.text quoted) cs)
  | .reference quoted name, c :: cs =>
    if Text.isAlphanumeric c then
      valueFrom environment (.reference quoted (name ++ [c])) cs
    else if c == '\x7b' && name.isEmpty then
      valueFrom environment (.braced quoted []) cs
    else if c == '$' then
      (valueFrom environment (.reference quoted []) cs).map
        (referred environment name ++ ·)
    else (valueFrom environment (.text quoted) cs).map
      (referred environment name ++ c :: ·)
  | .braced quoted name, c :: cs =>
    if c == '\x7d' then
      (valueFrom environment (.text quoted) cs).map
        (referred environment name ++ ·)
    else valueFrom environment (.braced quoted (name ++ [c])) cs
  | .behind, c :: cs =>
    if c == ' ' || c == '\t' then valueFrom environment .behind cs
    else if c == '#' then some []
    else none

/-- A character that the name of a variable may start with. -/
def startsName (c : Char) : Bool :=
  c.isAlpha || c == '_'

def isNameChar (c : Char) : Bool :=
  c.isAlphanum || c == '_' || c == '.'

/-- The name of a variable, and what follows it and the blanks behind it. -/
def name? : List Char → Option (List Char × List Char)
  | [] => none
  | c :: cs =>
    if startsName c then
      some (c :: cs.takeWhile isNameChar,
        Text.skipBlanks (cs.dropWhile isNameChar))
    else none

def afterEquals? : List Char → Option (List Char)
  | '=' :: cs => some cs
  | _ => none

/-- The name of an assignment, which may have a word for export in front, and
its right side. -/
def sides? (cs : List Char) : Option (List Char × List Char) := do
  let (name, rest) ← name? cs
  match afterEquals? rest with
  | some value => some (name, value)
  | none =>
    if name == "export".toList then
      let (name, rest) ← name? rest
      return (name, ← afterEquals? rest)
    else none

def isVoid : List Char → Bool
  | [] => true
  | c :: _ => c == '#'

/-- What a line gives: nothing, or a variable and its value.  Some lines cannot
be read. -/
def line? (environment : Settings.Environment) (line : List Char) :
    Option (Option (String × String)) :=
  let cs := Text.trim line
  if isVoid cs then some none
  else do
    let (name, value) ← sides? cs
    let value := Text.skipBlanks value
    let value ←
      if isVoid value then some []
      else valueFrom environment (.text false) value
    return some (String.ofList name, String.ofList value)

/-- An environment with the value of a variable that has none yet. -/
def withDefault (environment : Settings.Environment) (name value : String) :
    Settings.Environment :=
  fun other =>
    if other == name then (environment name).or (some value)
    else environment other

def extend (environment : Settings.Environment) :
    List (List Char) → Settings.Environment
  | [] => environment
  | line :: lines =>
    match line? environment line with
    | none => environment
    | some none => extend environment lines
    | some (some (name, value)) =>
      extend (withDefault environment name value) lines

def linesOf (text : String) : List (List Char) :=
  (text.splitOn "\n").map String.toList

/-- The words of a text that may name a variable. -/
def mentioned (text : String) : List String :=
  (Text.words (text.toList.map fun c => if isNameChar c then c else ' ')).map
    String.ofList

def load (environment : Settings.Environment) (text : String) :
    Settings.Environment :=
  extend environment (linesOf text)

end Polystore.Cli.VariableFile
