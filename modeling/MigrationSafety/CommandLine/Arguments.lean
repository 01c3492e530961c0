import MigrationSafety.CommandLine.Grammar

/-!
# The commands

* `Command.read`: the command that a command line asks for;
* `UsageError.message`: what is said about a command line that asks for none.
-/

namespace MigrationSafety

/-- What a check is asked for. -/
structure CheckRequest where
  path : String
  engine : String
  timeZone : String
  /-- Whether the report is written as data instead of text. -/
  asData : Bool
  startAfter : Option String
  failOn : Option String
  deriving DecidableEq, Repr

/-- What a command line asks for. -/
inductive Command where
  /-- To say how the program, or one of its commands, is used. -/
  | help (program : String)
  | check (request : CheckRequest)
  /-- Nothing. -/
  | idle
  deriving DecidableEq, Repr

/-- A command line that is refused, and the command that refuses it. -/
structure UsageError where
  program : String
  fault : UsageFault
  deriving DecidableEq, Repr

/-- What is said about a refused command line. -/
def UsageError.message (e : UsageError) : String :=
  s!"{e.program}: error: {e.fault.message}"

namespace Command

/-- The option for help, which every command has. -/
def helpOption : OptionSpec :=
  { names := ["-h", "--help"], takesValue := false }

/-- An option with a value. -/
def valueOption (name : String) : OptionSpec :=
  { names := [name], takesValue := true }

/-- The grammar of the program. -/
def grammar : Grammar :=
  { program := "migrationguard"
    options := [helpOption, { names := ["-v", "--verbose"], takesValue := false }]
    positional :=
      { name := "command", takesRest := true, choices := ["check"], required := false } }

/-- The grammar of the command that checks a plan. -/
def checkGrammar : Grammar :=
  { program := "migrationguard check"
    options :=
      [helpOption, { valueOption "--engine" with required := true }, valueOption "--time-zone",
        { valueOption "--format" with choices := ["text", "json"] }, valueOption "--start-after",
        { valueOption "--fail-on" with choices := ["unsafe", "conditionally_safe", "safe"] }]
    positional := { name := "path", takesRest := false, required := true } }

/-- Whether an option is the one for help. -/
def isHelp (o : OptionSpec) : Bool :=
  o == helpOption

/-- Reads a command line by a grammar, with the program named in errors. -/
def readBy (g : Grammar) (args : List String) : Except UsageError Reading :=
  (g.read isHelp args).mapError fun fault => ⟨g.program, fault⟩

/-- The request that a reading makes. -/
def requestOf (r : Reading) : CheckRequest :=
  { path := (r.positional.getD []).headD ""
    engine := (r.value? "--engine").getD ""
    timeZone := (r.value? "--time-zone").getD "UTC"
    asData := r.value? "--format" == some "json"
    startAfter := r.value? "--start-after"
    failOn := r.value? "--fail-on" }

/-- Refuses a command line of which something is left over. -/
def refuseLeftOver (args : List String) (command : Command) : Except UsageError Command :=
  if args.isEmpty then .ok command else .error ⟨grammar.program, .leftOver args⟩

/-- The command that a command line asks for, and how much it is to say. -/
def read (args : List String) : Except UsageError (Nat × Command) := do
  let r ← readBy grammar args
  let verbosity := r.count "--verbose"
  if r.options.any (isHelp ·.1) then .ok (verbosity, .help grammar.program)
  else
    match r.positional with
    | none => do
      let command ← refuseLeftOver r.leftOver .idle
      .ok (verbosity, command)
    | some rest => do
      let c ← readBy checkGrammar (rest.drop 1)
      if c.options.any (isHelp ·.1) then .ok (verbosity, .help checkGrammar.program)
      else do
        let command ← refuseLeftOver (r.leftOver ++ c.leftOver) (.check (requestOf c))
        .ok (verbosity, command)

end Command

end MigrationSafety
