import Polystore.Cli.Grammar

/-!
# Commands

What a command line asks for.  The options that concern the mediator may stand
before or behind the name of the command; a value behind it counts more than one
before it.
-/

namespace Polystore.Cli

inductive Command where
  | recommend (query : String)
  | execute (query : String) (store : Option String) (times : Nat)
  | compare (query : String)
  | history (contains store : Option String) (sinceSeconds : Option Int)
    (limit : Nat)
  | statistics (store : Option String)
  | clear
deriving DecidableEq, Repr

def Command.query? : Command → Option String
  | .recommend query => some query
  | .execute query _ _ => some query
  | .compare query => some query
  | _ => none

/-- A command line that asks for a command. -/
structure Invocation where
  dataDirectory : Option String
  timeoutMs : Option Nat
  confidenceThreshold : Option Float
  compareWhileExploring : Bool
  command : Command
deriving Repr

namespace Invocation

/-- The options that may stand on both sides of a command's name. -/
def globalOptions : List OptionForm := [
  ⟨"data-dir", some 'd', .path⟩,
  ⟨"timeout-ms", none, .natural⟩,
  ⟨"confidence-threshold", none, .real⟩,
  ⟨"compare-while-exploring", none, .nothing⟩,
  ⟨"help", some 'h', .help⟩]

/-- What a command of the given name takes besides the global options. -/
def formOf? : String → Option CommandForm
  | "recommend" => some ⟨globalOptions, 1, []⟩
  | "execute" => some ⟨globalOptions ++
      [⟨"store", some 's', .text⟩, ⟨"repeat", some 'r', .natural⟩], 1, []⟩
  | "compare" => some ⟨globalOptions, 1, []⟩
  | "history" => some ⟨globalOptions ++
      [⟨"contains", none, .text⟩, ⟨"store", none, .text⟩,
        ⟨"since-secs", none, .integer⟩, ⟨"limit", some 'l', .natural⟩], 0, []⟩
  | "stats" => some ⟨globalOptions ++ [⟨"store", none, .text⟩], 0, []⟩
  | "clear" => some ⟨globalOptions, 0, []⟩
  | _ => none

def commandNames : List String :=
  ["recommend", "execute", "compare", "history", "stats", "clear", "help"]

/-- What may stand in front of a command's name. -/
def outerForm : CommandForm :=
  ⟨globalOptions, 0, commandNames⟩

/-- A call for help on what the words name, which is one command at most. -/
def helpOn : List String → Refusal
  | [] => .help
  | [name] => if commandNames.contains name then .help else .usage
  | _ => .usage

def natural? (taken : Taken) (name : String) : Option Nat :=
  (taken.value? name).bind fun value =>
    (Numeral.unsigned? value.toList).toOption

/-- The command of a name, given what was read for it. -/
def commandOf (name : String) (taken : Taken) : Command :=
  let query := taken.operands.headD ""
  let store := taken.value? "store"
  match name with
  | "recommend" => .recommend query
  | "execute" => .execute query store ((natural? taken "repeat").getD 1)
  | "compare" => .compare query
  | "history" =>
    let sinceSeconds := (taken.value? "since-secs").bind fun value =>
      (Numeral.signed? value.toList).toOption
    .history (taken.value? "contains") store sinceSeconds
      ((natural? taken "limit").getD 20)
  | "stats" => .statistics store
  | _ => .clear

/-- What the words of a command line ask for. -/
def ofArguments (arguments : List String) : Except Refusal Invocation := do
  match ← outerForm.read .none arguments with
  | (_, none) => .error .usage
  | (outer, some (name, rest)) =>
    match formOf? name with
    | none => .error (helpOn rest)
    | some form =>
      let (inner, _) ← form.read .none rest
      let inner ← form.finish inner
      let outer ← outerForm.finish outer
      let value? (option : String) :=
        (inner.value? option).or (outer.value? option)
      return {
        dataDirectory := value? "data-dir"
        timeoutMs := (natural? inner "timeout-ms").or
          (natural? outer "timeout-ms")
        confidenceThreshold := (value? "confidence-threshold").bind fun value =>
          Numeral.float? value.toList
        compareWhileExploring := (value? "compare-while-exploring").isSome
        command := commandOf name inner }

end Invocation

end Polystore.Cli
