import MigrationSafety.Analysis
import MigrationSafety.CommandLine.Arguments
import MigrationSafety.Loader.Document
import MigrationSafety.Report.Record
import MigrationSafety.Report.Text

/-!
# Running commands

* `check`: loads a plan, analyzes it and writes the report;
* `run`: carries out a command line.

What a command writes is a value; the outer layer prints it.
-/

namespace MigrationSafety

/-- The exit codes: the plan may be deployed, it should not be, or it could not be judged. -/
inductive ExitCode where
  | clear
  | blocking
  | fault
  deriving DecidableEq, Repr

/-- The number of an exit code. -/
def ExitCode.number : ExitCode → Nat
  | .clear => 0
  | .blocking => 1
  | .fault => 2

/-- What a command writes and how it ends. -/
structure CommandResult where
  exit : ExitCode
  output : String
  log : List LogLine
  /-- Why the command could not finish. -/
  failure : Option Failure

/-- The lines of the log. -/
def CommandResult.logText (r : CommandResult) : String :=
  String.join (r.log.map fun line => line.display ++ "\n")

/-- What a command writes besides its output: the log, and why it failed. -/
def CommandResult.errors (r : CommandResult) : String :=
  r.logText ++
    match r.failure with
    | none => ""
    | some failure => s!"error: {failure.message}\n"

/-- The settings of a check: what is asked for goes before what the environment says. -/
def checkConfig (request : CheckRequest) (environment : List (String × String)) :
    Outcome Config := do
  let given ← Config.ofEnvironment environment
  .ok
    { startAfter := request.startAfter.or given.startAfter
      failOn := (request.failOn.bind Status.ofName?).getD given.failOn }

/-- Checks a plan: the exit code and the output. -/
def check (disk : Disk) (environment : List (String × String)) (verbosity : Nat)
    (request : CheckRequest) : Traced (ExitCode × String) := do
  let engine ← Engine.parse request.engine (.text request.timeZone)
  let config ← checkConfig request environment
  let plan ← load disk (Path.parse request.path)
  if plan.migrations.isEmpty then pure (.clear, s!"No migrations found in {request.path}\n")
  else do
    let report ← analyze config .builtIn engine plan
    let output ←
      if request.asData then (report.toJson (some 2)).map (· ++ "\n")
      else report.toText (0 < verbosity)
    pure (if report.isBlocking then .blocking else .clear, output)

/-- How a command is used. -/
def usage (program : String) : String :=
  if program == Command.checkGrammar.program then
    s!"usage: {program} [-h] --engine ENGINE [--time-zone ZONE] [--format text|json]\n" ++
      "    [--start-after NAME] [--fail-on unsafe|conditionally_safe|safe] path\n"
  else s!"usage: {program} [-h] [-v] check ...\n"

/-- Carries out a command line. A failure that the command line does not report is left to the
caller. -/
def run (disk : Disk) (environment : List (String × String)) (args : List String) :
    Except UsageError (Outcome CommandResult) := do
  let (verbosity, command) ← Command.read args
  match command with
  | .help program => .ok (.ok ⟨.clear, usage program, [], none⟩)
  | .idle => .ok (.ok ⟨.fault, usage Command.grammar.program, [], none⟩)
  | .check request =>
    let done := check disk environment verbosity request
    let log := if 1 < verbosity then done.log else []
    match done.outcome with
    | .ok (exit, output) => .ok (.ok ⟨exit, output, log, none⟩)
    | .error failure =>
      if failure.isReported then .ok (.ok ⟨.fault, "", log, some failure⟩)
      else .ok (.error failure)

end MigrationSafety
