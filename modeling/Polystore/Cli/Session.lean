import Polystore.Cli.Command
import Polystore.Cli.Workspace
import Polystore.Routing.Mediator
import Polystore.Store.Banking

/-!
# Sessions

One command from its words to what it prints.  The mediator of a session works
on the banking sample stores, with settings from the variables and from the
options, of which the options count more; its data directory is left in good
order whatever came of the command.
-/

namespace Polystore.Cli

/-- What a command line leads to. -/
inductive Outcome where
  | help
  | usage
  /-- The command has failed, with a report of why. -/
  | failed (report : String)
  /-- The command is done, with what it prints. -/
  | completed (output : Option Json)
deriving Repr

namespace Outcome

def status : Outcome → UInt32
  | .help => 0
  | .completed _ => 0
  | .failed _ => 1
  | .usage => 2

def report (message : String) : String :=
  "Error: " ++ message

/-- A text with every line but the first indented. -/
def indentedLines (text : String) : String :=
  "\n    ".intercalate (text.splitOn "\n")

/-- The report of a failure with a cause. -/
def reportWithCause (message cause : String) : String :=
  report message ++ "\n\nCaused by:\n    " ++ indentedLines cause

/-- The failure of a command by a fault. -/
def ofFault (fault : Fault) : Outcome :=
  .failed (report fault.message)

def ofResult {α : Type} (encode : α → Json) : Except Fault α → Outcome
  | .ok value => .completed (some (encode value))
  | .error fault => .ofFault fault

end Outcome

def Invocation.settings (invocation : Invocation) (base : Settings) :
    Settings :=
  { base with
    dataDirectory := invocation.dataDirectory.or base.dataDirectory
    storeTimeoutMs := invocation.timeoutMs.getD base.storeTimeoutMs
    confidenceThreshold :=
      invocation.confidenceThreshold.getD base.confidenceThreshold
    compareWhileExploring :=
      invocation.compareWhileExploring || base.compareWhileExploring }

namespace Session

/-- The instant that lies a number of seconds back, where the calendar has
it. -/
def cutoff? (now : Instant) (seconds : Int) : Option Instant :=
  let instant := now.secondsBefore seconds
  if instant.inCalendar then some instant else none

def listHistory (mediator : Mediator) (now : Instant)
    (contains store : Option String) (sinceSeconds : Option Int) (limit : Nat) :
    Outcome :=
  let list (since : Option Instant) : Outcome :=
    let filter : RecordFilter := { contains, store, since, limit := some limit }
    .completed
      (some (.array ((mediator.history.query filter).map ExecutionRecord.json)))
  match sinceSeconds with
  | none => list none
  | some seconds =>
    match cutoff? now seconds with
    | some since => list (some since)
    | none =>
      .failed (Outcome.report
        s!"--since-secs {Numeral.integerText seconds} is out of range")

/-- Executes a query, and once more for each of `further` times, and prints the
last answer.  The first failure ends the command; `place` counts the
executions. -/
def executeTimes (surroundings : Nat → Surroundings) (query : String)
    (target : Target) (place : Nat) (mediator : Mediator) (further : Nat) :
    Mediator × Outcome :=
  match mediator.execute (surroundings place) query target with
  | (mediator, .failed fault) => (mediator, .ofFault fault)
  | (mediator, .crashed) =>
    (mediator, .failed (Outcome.report "a store has crashed"))
  | (mediator, .answered answer) =>
    match further with
    | 0 => (mediator, .completed (some answer.json))
    | further + 1 =>
      executeTimes surroundings query target (place + 1) mediator further

def perform (surroundings : Nat → Surroundings) (mediator : Mediator) :
    Command → Mediator × Outcome
  | .recommend query =>
    let (mediator, recommendation) := mediator.recommend query
    (mediator, .ofResult Recommendation.json recommendation)
  | .execute query store times =>
    executeTimes surroundings query (.ofOption store) 0 mediator (times - 1)
  | .compare query =>
    let (mediator, results) := mediator.executeAll (surroundings 0) query
    (mediator, .ofResult (fun results => .array (results.map QueryResult.json))
      results)
  | .history contains store sinceSeconds limit =>
    (mediator, listHistory mediator (surroundings 0).now contains store
      sinceSeconds limit)
  | .statistics store =>
    (mediator, .completed
      (some ((mediator.statistics store).jsonWith .ofFloat)))
  | .clear => (mediator.clear, .completed none)

def runWith (surroundings : Nat → Surroundings) (workspace : Workspace)
    (settings : Settings) (command : Command) : Outcome × Workspace :=
  let directory := (settings.dataDirectory.map workspace.directory).getD .fresh
  match Mediator.create settings Banking.registry directory with
  | .error fault => (.ofFault fault, workspace)
  | .ok mediator =>
    let (mediator, outcome) := perform surroundings mediator command
    let kept := settings.dataDirectory.map fun path =>
      workspace.keep path mediator.close
    (outcome, kept.getD workspace)

/-- The settings and the command of a command line, or what it leads to without
a command. -/
def plan (workspace : Workspace) (given : Settings.Environment)
    (arguments : List String) : Except Outcome (Settings × Command) :=
  match Invocation.ofArguments arguments with
  | .error .help => .error .help
  | .error .usage => .error .usage
  | .ok invocation =>
    match Settings.ofEnvironment (workspace.environment given) with
    | .error fault =>
      .error (.failed
        (Outcome.reportWithCause "invalid MEDIATOR_* environment"
          fault.fault.message))
    | .ok base => .ok (invocation.settings base, invocation.command)

/-- Runs a command line in a workspace.  `surroundings` tells what the world
around each of its operations is like. -/
def run (surroundings : Nat → Surroundings) (workspace : Workspace)
    (given : Settings.Environment) (arguments : List String) :
    Outcome × Workspace :=
  match plan workspace given arguments with
  | .error outcome => (outcome, workspace)
  | .ok (settings, command) => runWith surroundings workspace settings command

end Session

end Polystore.Cli
