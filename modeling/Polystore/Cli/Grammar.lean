import Polystore.Numeral.Binary64
import Polystore.Numeral.Bounded

/-!
# The grammar of command lines

A command takes options, which are recognised by their names, and operands,
which are recognised by their places.  Words are read from the left.  A word
that nothing accounts for, an option without its value, with a value that does
not fit or given twice, and a missing operand are faults of usage; a call for
help ends the reading before anything behind it is looked at.  What a separate
word says about an option is checked only when the next option or operand comes,
or at the end.
-/

namespace Polystore.Cli

/-- Why a command line asks for no command. -/
inductive Refusal where
  | help
  | usage
deriving DecidableEq, Repr

/-- What an option expects to find behind its name. -/
inductive Expects where
  | nothing
  | help
  | text
  | path
  | natural
  | integer
  | real
deriving DecidableEq, Repr

def Expects.accepts (expects : Expects) (value : String) : Bool :=
  match expects with
  | .nothing | .help => value.isEmpty
  | .text => true
  | .path => !value.isEmpty
  | .natural => (Numeral.unsigned? value.toList).toOption.isSome
  | .integer => (Numeral.signed? value.toList).toOption.isSome
  | .real => (Numeral.float? value.toList).isSome

/-- An option stands without a value. -/
def Expects.isSwitch : Expects → Bool
  | .nothing | .help => true
  | _ => false

structure OptionForm where
  name : String
  short : Option Char
  expects : Expects
deriving DecidableEq, Repr

structure CommandForm where
  options : List OptionForm
  operands : Nat
  /-- The names of the commands that may follow. -/
  commands : List String
deriving DecidableEq, Repr

/-- What was read of a command line. -/
structure Taken where
  options : List (String × String)
  operands : List String
  /-- An option that is not checked yet, with its value once it has come. -/
  pending : Option (OptionForm × Option String)
deriving DecidableEq, Repr

namespace Taken

def none : Taken := ⟨[], [], .none⟩

def awaitsValue (taken : Taken) : Bool :=
  match taken.pending with
  | some (_, .none) => true
  | _ => false

def value? (taken : Taken) (name : String) : Option String :=
  taken.options.lookup name

/-- An option with its value, which is new and fits. -/
def add (taken : Taken) (option : OptionForm) (value : String) :
    Except Refusal Taken :=
  if (taken.value? option.name).isSome || !option.expects.accepts value then
    .error .usage
  else .ok { taken with options := taken.options ++ [(option.name, value)] }

/-- The pending option checked. -/
def settle (taken : Taken) : Except Refusal Taken :=
  match taken.pending with
  | .none => .ok taken
  | some (_, .none) => .error .usage
  | some (option, some value) =>
    { taken with pending := .none }.add option value

/-- The value of the pending option. -/
def supply (taken : Taken) (value : String) : Taken :=
  { taken with pending := taken.pending.map fun (option, _) =>
    (option, some value) }

/-- An option, with the value that was attached to its name if there was one. -/
def takeOption (taken : Taken) (option : OptionForm)
    (attached : Option String) : Except Refusal Taken := do
  match attached with
  | some value =>
    if option.expects.isSwitch then .error .usage
    else (← taken.settle).add option value
  | .none =>
    let settled ← taken.settle
    match option.expects with
    | .help => .error .help
    | .nothing => settled.add option ""
    | _ => .ok { settled with pending := some (option, .none) }

end Taken

/-- The parts that a word has by its first characters. -/
inductive Word where
  /-- Everything that follows is an operand. -/
  | escape
  | long (name : String) (attached : Option String)
  | short (letters : List Char)
  | plain (text : String)
deriving DecidableEq, Repr

/-- A name and what is attached to it behind an equals sign. -/
def splitAttached : List Char → List Char × Option String
  | [] => ([], none)
  | '=' :: value => ([], some (String.ofList value))
  | c :: cs =>
    let (name, attached) := splitAttached cs
    (c :: name, attached)

/-- The parts of a word.  A single hyphen is no option. -/
def Word.ofText (text : String) : Word :=
  match text.toList with
  | ['-', '-'] => .escape
  | '-' :: '-' :: cs =>
    let (name, attached) := splitAttached cs
    .long (String.ofList name) attached
  | ['-'] => .plain text
  | '-' :: letters => .short letters
  | _ => .plain text

namespace CommandForm

/-- A run of short options; what follows the first one that expects a value is
that value. -/
def takeLetters (form : CommandForm) (taken : Taken) :
    List Char → Except Refusal Taken
  | [] => .ok taken
  | letter :: rest =>
    match form.options.find? fun option => option.short == some letter with
    | none => .error .usage
    | some option =>
      if option.expects.isSwitch then do
        takeLetters form (← taken.takeOption option none) rest
      else
        match rest with
        | [] => taken.takeOption option none
        | '=' :: value => taken.takeOption option (some (String.ofList value))
        | value => taken.takeOption option (some (String.ofList value))

/-- A word without hyphens, in the place of an operand. -/
def takeOperand (form : CommandForm) (taken : Taken) (text : String) :
    Except Refusal Taken := do
  let settled ← taken.settle
  if settled.operands.length < form.operands then
    .ok { settled with operands := settled.operands ++ [text] }
  else .error .usage

/-- An option by its long name. -/
def takeLong (form : CommandForm) (taken : Taken) (name : String)
    (attached : Option String) : Except Refusal Taken :=
  match form.options.find? fun option => option.name == name with
  | none => .error .usage
  | some option => taken.takeOption option attached

/-- Reads words up to the name of a command that may follow, which is given with
the words behind it. -/
def read (form : CommandForm) (taken : Taken) :
    List String → Except Refusal (Taken × Option (String × List String))
  | [] => .ok (taken, none)
  | word :: rest =>
    if !taken.awaitsValue && form.commands.contains word then
      .ok (taken, some (word, rest))
    else
      match Word.ofText word with
      | .escape => do return (← rest.foldlM form.takeOperand taken, none)
      | .long name attached =>
        do read form (← form.takeLong taken name attached) rest
      | .short letters => do read form (← form.takeLetters taken letters) rest
      | .plain text =>
        if taken.awaitsValue then read form (taken.supply text) rest
        else do read form (← form.takeOperand taken text) rest

/-- What was read, provided that all operands are there and the last option is
in order. -/
def finish (form : CommandForm) (taken : Taken) : Except Refusal Taken := do
  let settled ← taken.settle
  if settled.operands.length == form.operands then .ok settled
  else .error .usage

end CommandForm

end Polystore.Cli
