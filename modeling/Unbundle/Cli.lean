-- SUMMARY: The command line: from arguments to output, exit status and changed files.
import Unbundle.Cli.Filter
import Unbundle.Cli.Options
import Unbundle.Config.Files
import Unbundle.Run

/-!
# Command line

`Cli.run` is the whole program as a function: it gets the arguments and the surroundings, and gives
what is printed, the exit status and the changed disk.
-/

namespace Unbundle.Cli

/-- What surrounds the program. -/
structure Environment where
  user : Config.Surroundings
  /-- Directives about what is logged, if they are set. -/
  logSpec : Option String
  launch : Program.Launcher

/-- What the program leaves behind. -/
structure Result where
  exit : Nat
  output : List String
  errors : List String
  disk : Disk

-- ---------------------------------------------------------------------------
-- Help
-- ---------------------------------------------------------------------------

def versionLine : String := "demin 0.1.0"

/-- The short and the long spelling of an option. -/
def spellingColumn (s : Spelling) : String :=
  match s.short with
  | some c => s!"  -{c}, {s.text}"
  | none => s!"      {s.text}"

/-- Options and their descriptions in two columns. -/
def optionLines : List String :=
  let width := (spellings.map (spellingColumn ·|>.length)).foldl max 0
  spellings.map fun s =>
    let column := spellingColumn s
    column.pushn ' ' (width - column.length) ++ "  " ++ s.description

def helpLines : List String :=
  ["Splits a minified AMD bundle back into one ES module per define() call", "",
    "Usage: demin [OPTIONS] --input <INPUT>", "", "Options:"] ++ optionLines

-- ---------------------------------------------------------------------------
-- Reports
-- ---------------------------------------------------------------------------

/-- The lines of a cause: the first after its number, if it has one, the others below it. -/
def causeLines (number : Option Nat) (cause : String) : List String :=
  let (first, others) := match number with
    | none => ("    ", "    ")
    | some n => ("".pushn ' ' (5 - (toString n).length) ++ s!"{n}: ", "       ")
  match cause.splitOn "\n" with
  | [] => []
  | line :: rest => (first ++ line) :: rest.map (others ++ ·)

/-- A failure: what went wrong, and the causes below it. -/
def failureLines : List String → List String
  | [] => []
  | [message] => ("Error: " ++ message).splitOn "\n"
  | [message, cause] =>
    ("Error: " ++ message).splitOn "\n" ++ ["", "Caused by:"] ++ causeLines none cause
  | message :: causes =>
    ("Error: " ++ message).splitOn "\n" ++ ["", "Caused by:"] ++
      (causes.zipIdx.map fun (cause, n) => causeLines (some n) cause).flatten

/-- The lines for the events that are shown. -/
def eventLines (shows : Event → Bool) (events : List Event) : List String :=
  (events.filter shows).flatMap fun e => (eventLine e).splitOn "\n"

-- ---------------------------------------------------------------------------
-- The program
-- ---------------------------------------------------------------------------

/-- How much is logged with some settings. -/
def logLevel (logging : Logging) (verbose : Nat) : Level :=
  match logging, verbose with
  | .none, _ => .error
  | .verbose, 0 => .info
  | .verbose, 1 => .debug
  | .verbose, _ => .trace

/-- What is logged while the configuration is not known. -/
def Options.provisionalLogging (o : Options) : Logging :=
  if o.quiet then .none else .verbose

/-- The filter that the options and the surroundings ask for, with warnings about the latter. -/
def Options.filter (o : Options) (env : Environment) : Filter × List String :=
  let start : Filter := [⟨none, some (logLevel o.provisionalLogging o.verbose)⟩]
  match env.logSpec with
  | none => (start, [])
  | some spec =>
    let (filter, ignored) := start.parse spec
    (filter, ignored.map fun part => s!"warning: {part}, ignoring it")

/-- The level that the configuration lowers the log to, if it does. -/
def Options.configuredLevel? (o : Options) (env : Environment) (c : Config) : Option Level :=
  if c.logging != o.provisionalLogging && env.logSpec.isNone then
    some (logLevel c.logging o.verbose)
  else none

/-- Runs with options. -/
def runOptions (env : Environment) (o : Options) (d : Disk) : Result :=
  let (filter, warnings) := o.filter env
  let (loading, loaded) := Config.load env.user o.config d
  let before := warnings ++ eventLines filter.shows loading
  match loaded with
  | .error error => ⟨1, [], before ++ failureLines error.chain, d⟩
  | .ok c =>
    let c := c.apply o.layer
    let level? := o.configuredLevel? env c
    let shows (e : Event) : Bool := filter.shows e && level?.all e.isShown
    let report := Run.file env.launch (o.input.getD "") c d
    let lines := before ++ eventLines shows report.log
    match report.result with
    | .ok _ => ⟨0, [], lines, report.disk⟩
    | .error error => ⟨1, [], lines ++ failureLines error.chain, report.disk⟩

/-- Runs the program. -/
def run (env : Environment) (arguments : List String) (d : Disk) : Result :=
  match Options.parse arguments with
  | .error .help => ⟨0, helpLines, [], d⟩
  | .error .version => ⟨0, [versionLine], [], d⟩
  | .error (.usage error) => ⟨2, [], ["error: " ++ error.message], d⟩
  | .ok o => runOptions env o d

end Unbundle.Cli
