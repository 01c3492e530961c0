import MigrationSafety.Text.Digit
import MigrationSafety.Text.Quoted
import MigrationSafety.Text.Split

/-!
# Command lines

A command line is read by a grammar: options, which start with a hyphen and may stand anywhere, and
one positional argument. A long option may be shortened as long as it stays the only one, short
options without values may be written together, and a value may be joined to its option. After a
double hyphen everything is positional.

* `Token.classify`: what an argument is, by itself;
* `Grammar.read`: options, the positional argument, and what is left over.
-/

namespace MigrationSafety

/-- An option. -/
structure OptionSpec where
  names : List String
  takesValue : Bool
  /-- The values it takes; any value if there are none. -/
  choices : List String := []
  required : Bool := false
  deriving DecidableEq, Repr

/-- The positional argument: one text, or a word that everything behind it belongs to. -/
structure PositionalSpec where
  name : String
  takesRest : Bool
  choices : List String := []
  required : Bool
  deriving DecidableEq, Repr

/-- The grammar of a command. -/
structure Grammar where
  /-- The name of the command, as messages start with it. -/
  program : String
  options : List OptionSpec
  positional : PositionalSpec

/-- Why a command line is refused. -/
inductive UsageFault where
  | ambiguous (given : String) (names : List String)
  | valueExpected (option : String)
  | valueRefused (option given : String)
  | invalidChoice (argument given : String) (choices : List String)
  | missing (names : List String)
  | leftOver (args : List String)
  deriving DecidableEq, Repr

/-- What is said about a refused command line. -/
def UsageFault.message : UsageFault → String
  | .ambiguous given names =>
    s!"ambiguous option: {given} could match " ++ ", ".intercalate names
  | .valueExpected option => s!"argument {option}: expected one argument"
  | .valueRefused option given =>
    s!"argument {option}: ignored explicit argument {Text.quoted given}"
  | .invalidChoice argument given choices =>
    s!"argument {argument}: invalid choice: {Text.quoted given} (choose from " ++
      ", ".intercalate (choices.map Text.quoted) ++ ")"
  | .missing names => "the following arguments are required: " ++ ", ".intercalate names
  | .leftOver args => "unrecognized arguments: " ++ " ".intercalate args

/-- The option that an argument names, with the value joined to it and the sign between them. -/
structure OptionHit where
  spec : OptionSpec
  /-- Whether the name is a short one, behind which more short options may follow. -/
  short : Bool
  value : Option String
  /-- Whether an equals sign joins the value. -/
  joined : Bool
  deriving Repr

/-- What an argument is. -/
inductive Token where
  | positional (s : String)
  | separator
  | option (s : String) (hit : OptionHit)
  | unknown (s : String)
  deriving Repr

namespace OptionSpec

/-- An option as messages name it. -/
def display (o : OptionSpec) : String :=
  "/".intercalate o.names

end OptionSpec

/-- Whether a name is a short one: one hyphen. -/
def isShortName (name : String) : Bool :=
  !"--".toList.isPrefixOf name.toList

namespace Grammar

/-- The option with a name. -/
def find? (g : Grammar) (name : String) : Option OptionSpec :=
  g.options.find? (·.names.contains name)

/-- All names with their options, in order. -/
def names (g : Grammar) : List (String × OptionSpec) :=
  g.options.flatMap fun o => o.names.map (·, o)

/-- The hits of an argument that is no exact name: every name that it may be short for, or that
it may join a value to. -/
def candidates (g : Grammar) (arg : String) : List (String × OptionHit) :=
  let cs := arg.toList
  if isShortName arg then
    g.names.filterMap fun (name, o) =>
      if name == String.ofList (cs.take 2) then
        some (name, ⟨o, true, some (String.ofList (cs.drop 2)), false⟩)
      else if cs.isPrefixOf name.toList then some (name, ⟨o, isShortName name, none, false⟩)
      else none
  else
    let (stem, value) := Text.splitAtFirst '=' cs
    let value := if cs.contains '=' then some (String.ofList value) else none
    g.names.filterMap fun (name, o) =>
      if stem.isPrefixOf name.toList then
        some (name, ⟨o, isShortName name, value, value.isSome⟩)
      else none

end Grammar

/-- Whether an argument is a negative number, which is never an option. -/
def isNegativeNumber (arg : String) : Bool :=
  let cs := arg.toList
  let cs := if cs.getLast? == some '\n' then cs.dropLast else cs
  match cs with
  | '-' :: rest =>
    let whole := rest.takeWhile Text.isDigit
    match rest.dropWhile Text.isDigit with
    | [] => !whole.isEmpty
    | '.' :: digits => !digits.isEmpty && digits.all Text.isDigit
    | _ => false
  | _ => false

/-- What an argument is, by itself. -/
def Token.classify (g : Grammar) (arg : String) : Except UsageFault Token :=
  match arg.toList with
  | '-' :: _ :: _ =>
    match g.find? arg with
    | some o => .ok (.option arg ⟨o, isShortName arg, none, false⟩)
    | none =>
      let (stem, value) := Text.splitAtFirst '=' arg.toList
      let exact := if arg.toList.contains '=' then g.find? (String.ofList stem) else none
      match exact with
      | some o =>
        .ok (.option arg
          ⟨o, isShortName (String.ofList stem), some (String.ofList value), true⟩)
      | none =>
        match g.candidates arg with
        | [(_, hit)] => .ok (.option arg hit)
        | [] =>
          if isNegativeNumber arg || arg.toList.contains ' ' then .ok (.positional arg)
          else .ok (.unknown arg)
        | hits => .error (.ambiguous arg (hits.map (·.1)))
  | _ => .ok (.positional arg)

/-- What the arguments are. All of them are positional after the first double hyphen. -/
def Token.classifyAll (g : Grammar) : List String → Except UsageFault (List Token)
  | [] => .ok []
  | arg :: args =>
    if arg == "--" then .ok (.separator :: args.map .positional)
    else do
      let token ← classify g arg
      let tokens ← classifyAll g args
      .ok (token :: tokens)

/-- The argument that a token stands for. -/
def Token.text : Token → String
  | .positional s | .option s _ | .unknown s => s
  | .separator => "--"

/-- Whether a token starts with a hyphen as options do. -/
def Token.isOption : Token → Bool
  | .option _ _ | .unknown _ => true
  | _ => false

/-- What has been read of a command line. -/
structure Reading where
  /-- Options with their values, in order; empty for options without values. -/
  options : List (OptionSpec × String) := []
  /-- The positional argument and all that belongs to it. -/
  positional : Option (List String) := none
  leftOver : List String := []

/-- Reads the short options written together behind a short option without a value: the options,
the value of the last one if it takes one, and what is left over. -/
def readTail (g : Grammar) (spec : OptionSpec) (joined : Bool) :
    List Char → Except UsageFault (List (OptionSpec × Option String) × List String)
  | [] =>
    if joined then .error (.valueRefused spec.display "") else .ok ([(spec, none)], [])
  | c :: rest =>
    if spec.takesValue then .ok ([(spec, some (String.ofList (c :: rest)))], [])
    else if joined || c == '-' then
      .error (.valueRefused spec.display (String.ofList (c :: rest)))
    else
      match g.find? (String.ofList ['-', c]) with
      | none => .ok ([(spec, none)], [String.ofList ('-' :: c :: rest)])
      | some next => do
        let (more, left) ←
          match rest with
          | '=' :: value =>
            if next.takesValue then .ok ([(next, some (String.ofList value))], [])
            else .error (.valueRefused next.display (String.ofList value))
          | rest => readTail g next false rest
        .ok ((spec, none) :: more, left)

/-- Checks the value of an option or argument against its choices. -/
def checkChoice (argument : String) (choices : List String) (value : String) :
    Except UsageFault String :=
  if choices.isEmpty || choices.contains value then .ok value
  else .error (.invalidChoice argument value choices)

namespace Grammar

/-- The options that one argument stands for, what is left over of it, and the tokens behind it
that are not used up. -/
def readOption (g : Grammar) (hit : OptionHit) (rest : List Token) :
    Except UsageFault (List (OptionSpec × String) × List String × List Token) := do
  let (found, left) ←
    match hit.value with
    | none => .ok ([(hit.spec, none)], [])
    | some value =>
      if hit.spec.takesValue then .ok ([(hit.spec, some value)], [])
      else if hit.short then readTail g hit.spec hit.joined value.toList
      else .error (.valueRefused hit.spec.display value)
  let last := found.getLast?
  let needsValue := last.any fun (o, value) => o.takesValue && value.isNone
  let (found, rest) ←
    if needsValue then
      match rest with
      | .positional s :: rest =>
        .ok (found.dropLast ++ (last.map fun (o, _) => (o, some s)).toList, rest)
      | _ => .error (.valueExpected ((last.map fun (o, _) => o.display).getD ""))
    else .ok (found, rest)
  let checked ← found.mapM fun (o, value) => do
    let value ← checkChoice o.display (if o.takesValue then o.choices else []) (value.getD "")
    .ok (o, value)
  .ok (checked, left, rest)

/-- The positional argument at the head of some tokens, and the tokens behind it. -/
def takePositional? (p : PositionalSpec) (tokens : List Token) :
    Option (List String × List Token) :=
  let isSeparator : Token → Bool
    | .separator => true
    | _ => false
  let leading := tokens.takeWhile isSeparator
  match tokens.dropWhile isSeparator with
  | .positional s :: rest =>
    if p.takesRest then some (leading.map Token.text ++ s :: rest.map Token.text, [])
    else some ([s], rest.dropWhile isSeparator)
  | _ => none

/-- Reads the positional argument, if it is still missing and stands here. -/
def readPositional (g : Grammar) (r : Reading) (tokens : List Token) :
    Except UsageFault (Option (Reading × List Token)) :=
  if r.positional.isSome then .ok none
  else
    match takePositional? g.positional tokens with
    | none => .ok none
    | some (args, rest) => do
      let _ ← checkChoice g.positional.name g.positional.choices (args.headD "")
      .ok (some ({ r with positional := some args }, rest))

/-- Reads tokens: positional ones up to the next option, then that option, and so on. `fuel`
bounds the number of steps. Reading stops at an option for which `stop` holds. -/
def readTokens (g : Grammar) (stop : OptionSpec → Bool) :
    (fuel : Nat) → Reading → List Token → Except UsageFault Reading
  | 0, r, _ => .ok r
  | fuel + 1, r, tokens =>
    match tokens with
    | .option _ hit :: rest => do
      let (options, left, rest) ← g.readOption hit rest
      let r := { r with
        options := r.options ++ options
        leftOver := r.leftOver ++ left }
      if options.any (stop ·.1) then .ok r else readTokens g stop fuel r rest
    | .unknown s :: rest => readTokens g stop fuel { r with leftOver := r.leftOver ++ [s] } rest
    | tokens => do
      match ← g.readPositional r tokens with
      | some (r, rest) => readTokens g stop fuel r rest
      | none =>
        let skipped := tokens.takeWhile (!·.isOption)
        let r := { r with leftOver := r.leftOver ++ skipped.map Token.text }
        match tokens.dropWhile (!·.isOption) with
        | [] => .ok r
        | rest => readTokens g stop fuel r rest

/-- The names of what is required and was not given. -/
def missing (g : Grammar) (r : Reading) : List String :=
  let positional :=
    if g.positional.required && r.positional.isNone then [g.positional.name] else []
  let options := g.options.filter fun o => o.required && !r.options.any (·.1 == o)
  positional ++ options.map (·.display)

/-- Reads a command line. Reading stops early at an option for which `stop` holds. -/
def read (g : Grammar) (stop : OptionSpec → Bool) (args : List String) :
    Except UsageFault Reading := do
  let tokens ← Token.classifyAll g args
  let r ← g.readTokens stop (2 * tokens.length + 1) {} tokens
  if r.options.any (stop ·.1) then .ok r
  else
    match g.missing r with
    | [] => .ok r
    | names => .error (.missing names)

end Grammar

namespace Reading

/-- The value of an option; the last one given counts. -/
def value? (r : Reading) (name : String) : Option String :=
  (r.options.reverse.find? (·.1.names.contains name)).map (·.2)

/-- How often an option was given. -/
def count (r : Reading) (name : String) : Nat :=
  r.options.countP (·.1.names.contains name)

end Reading

end MigrationSafety
