import Polystore.Cli.Session
import Polystore.Cli.Usage
import Polystore.History.LogText
import Polystore.Json.Indented
import Std.Time.DateTime.Timestamp

/-!
# The command

Brings the workspace in from the disk, runs the command line in it, and writes
back what has changed.  The time that a store takes is measured by asking it
once beforehand.
-/

namespace Polystore.Cli.Disk

/-- The bytes of a file; there are none where there is no file, and other
failures stay failures. -/
def bytes? (path : String) : IO (Option ByteArray) := do
  try
    return some (← IO.FS.readBinFile path)
  catch
    | .noFileOrDirectory .. => return none
    | failure => throw failure

def logPath (directory : String) : String := directory ++ "/executions.log"

def profilePath (directory : String) : String := directory ++ "/profiles.json"

def readLog (directory : String) : IO LogFile := do
  try
    match ← bytes? (logPath directory) with
    | none => return .absent
    | some bytes =>
      return ((String.fromUTF8? bytes).map LogFile.ofText).getD .unusable
  catch _ => return .unusable

def readProfiles (directory : String) : IO ProfileFile := do
  try
    match ← bytes? (profilePath directory) with
    | none => return .absent
    | some bytes => return .text ((String.fromUTF8? bytes).getD "")
  catch _ => return .directory

/-- A data directory, which is created where there is none. -/
def readDirectory (path : String) : IO DataDirectory := do
  try
    IO.FS.createDirAll path
    return ⟨← readLog path, ← readProfiles path⟩
  catch _ => return ⟨.unusable, .absent⟩

/-- Writes what has changed in a data directory. -/
def writeDirectory (path : String) (before after : DataDirectory) :
    IO Unit := do
  if before.log != after.log then
    if let some text := after.log.text? then IO.FS.writeFile (logPath path) text
  if before.profiles != after.profiles then
    match after.profiles with
    | .text content =>
      IO.FS.writeFile (profilePath path ++ ".new") content
      IO.FS.rename (profilePath path ++ ".new") (profilePath path)
    | .absent => IO.FS.removeFile (profilePath path)
    | .directory => pure ()

/-- The workspace of a command, with the data directory that the command will
use. -/
def readWorkspace (given : Settings.Environment) (variableText : Option String)
    (arguments : List String) : IO (Workspace × Option String) := do
  let workspace := Workspace.fresh variableText
  match Session.plan workspace given arguments with
  | .ok ({ dataDirectory := some path, .. }, _) =>
    return (workspace.keep path (← readDirectory path), some path)
  | _ => return (workspace, none)

def readVariables : IO (Option String) := do
  try return (← bytes? Workspace.variableFile).bind String.fromUTF8?
  catch _ => return none

/-- The variables that the settings and the file of variables name. -/
def readEnvironment (variableText : Option String) :
    IO Settings.Environment := do
  let names :=
    Settings.variableNames ++ (variableText.map VariableFile.mentioned).getD []
  let values ← names.mapM fun name => return (name, ← IO.getEnv name)
  return fun name => (values.lookup name).join

/-- The time that a store of the sample takes for a query, in milliseconds. -/
def measure (settings : Settings) (query : String) (store : Store) :
    IO (String × Float) := do
  let candidate :=
    Candidate.forStore settings Banking.registry query (Query.classify query)
      store
  let start ← IO.monoNanosNow
  let _ ← IO.lazyPure fun _ => (store.execute candidate.query).2
  let stop ← IO.monoNanosNow
  return (store.name, Float.ofNat (stop - start) / 1000000.0)

/-- What the gauges will show for each store. -/
def readMeter (settings : Settings) (query : Option String) :
    IO (Store → Readings) := do
  let times ←
    match query with
    | some query => Banking.registry.stores.mapM (measure settings query)
    | none => pure []
  return fun store =>
    let time := (times.lookup store.name).getD 0.0
    ⟨time, time, 0.0⟩

def readClock : IO Instant := do
  let nanoseconds := (← Std.Time.Timestamp.now).toNanosecondsSinceUnixEpoch.val
  return ⟨nanoseconds / 1000000000, (nanoseconds % 1000000000).toNat⟩

/-- The instant a number of microseconds later. -/
def later (instant : Instant) (microseconds : Nat) : Instant :=
  let nanoseconds := instant.nanoseconds + microseconds * 1000
  ⟨instant.seconds + (nanoseconds / 1000000000 : Nat), nanoseconds % 1000000000⟩

/-- The world around the operations of a command. -/
def readSurroundings (plan : Except Outcome (Settings × Command)) :
    IO (Nat → Surroundings) := do
  let meter ←
    match plan with
    | .ok (settings, command) => readMeter settings command.query?
    | .error _ => pure fun _ => ⟨0.0, 0.0, 0.0⟩
  let now ← readClock
  let bits := (← IO.getRandomBytes 16).toList.foldl
    (fun bits byte => bits * 256 + byte.toNat) 0
  return fun place =>
    { now := later now place
      ids := fun index => .ofRandom (bits + place * 0x10000 + index)
      meter }

def print : Outcome → IO Unit
  | .help => IO.print usageText
  | .usage => IO.eprint usageText
  | .failed report => IO.eprintln report
  | .completed (some output) => IO.println output.indented
  | .completed none => pure ()

end Polystore.Cli.Disk

open Polystore Polystore.Cli in
/-- Runs a command line in the working directory. -/
def main (arguments : List String) : IO UInt32 := do
  let variableText ← Disk.readVariables
  let given ← Disk.readEnvironment variableText
  let (workspace, path) ← Disk.readWorkspace given variableText arguments
  let surroundings ←
    Disk.readSurroundings (Session.plan workspace given arguments)
  let (outcome, next) := Session.run surroundings workspace given arguments
  if let some path := path then
    Disk.writeDirectory path (workspace.directory path) (next.directory path)
  Disk.print outcome
  return outcome.status
