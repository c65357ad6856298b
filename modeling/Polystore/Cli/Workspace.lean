import Polystore.Cli.VariableFile
import Polystore.History.Directory

/-!
# The workspace

The working directory of a command: a file of variables that it may hold, and
the data directories that commands have left behind.  Two spellings of one path
name the same directory, and below a file there is no place for a directory.
-/

namespace Polystore.Cli

/-- The working directory of a command. -/
structure Workspace where
  /-- The text of the file of variables. -/
  variableText : Option String
  /-- Data directories by their paths. -/
  directories : Keyed DataDirectory
deriving DecidableEq, Repr

namespace Workspace

def variableFile : String := ".env"

/-- A working directory in which nothing was kept yet. -/
def fresh (variableText : Option String) : Workspace :=
  ⟨variableText, []⟩

/-- The parts of a path with one more; a part that leads upwards takes back the
one before it. -/
def descend (parts : List String) (part : String) : List String :=
  if part == "" || part == "." then parts
  else if part == ".." && !parts.isEmpty && parts.getLast? != some ".." then
    parts.dropLast
  else parts ++ [part]

/-- The parts of a path without detours. -/
def partsOf (path : String) : List String :=
  (path.splitOn "/").foldl descend []

/-- The one spelling of a path under which its data directory is known. -/
def keyOf (path : String) : String :=
  (if path.startsWith "/" then "/" else "") ++ "/".intercalate (partsOf path)

/-- A file stands at a path or above it. -/
def isBlocked (workspace : Workspace) (path : String) : Bool :=
  workspace.variableText.isSome && !path.startsWith "/"
    && (partsOf path).head? == some variableFile

def directory (workspace : Workspace) (path : String) : DataDirectory :=
  if workspace.isBlocked path then ⟨.unusable, .absent⟩
  else (workspace.directories.get? (keyOf path)).getD .fresh

def keep (workspace : Workspace) (path : String) (directory : DataDirectory) :
    Workspace :=
  if workspace.isBlocked path then workspace
  else
    { workspace with
      directories := workspace.directories.insert (keyOf path) directory }

/-- The variables of a command: those that it was given, and those of the
file. -/
def environment (workspace : Workspace) (given : Settings.Environment) :
    Settings.Environment :=
  match workspace.variableText with
  | some text => VariableFile.load given text
  | none => given

end Workspace

end Polystore.Cli
