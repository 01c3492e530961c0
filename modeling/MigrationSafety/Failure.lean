import MigrationSafety.Engine.Kind
import MigrationSafety.Lock.Mode
import MigrationSafety.Operation.Kind
import MigrationSafety.Text.Integer
import MigrationSafety.Value.Display

/-!
# Failures

Why reading a plan, setting up an analysis or carrying it out stops. Each constructor is a cause;
`Failure.message` words it. Causes are grouped by what is at fault: an operation, a setting, a
file, a number, the version of an engine, or the shape of a value.
-/

namespace MigrationSafety

/-- Why an operation, or the migration that holds it, is malformed. -/
inductive OperationFault where
  | tooManyFields (kind : Operation.Kind) (limit given : Nat)
  | givenTwice (kind : Operation.Kind) (field : String)
  | foreignFlag (kind : Operation.Kind) (field : String)
  | unknownField (kind : Operation.Kind) (field : String)
  | missing (kind : Operation.Kind) (field : String)
  | notAFlag (kind : Operation.Kind) (field : String) (given : Value)
  | sameName (kind : Operation.Kind) (name : Value)
  | unidentifiedIndex
  | untargetedValidation
  | unknownKind (given : Value)
  | noKind
  | notAnOperation (migration given : Value)
  | migrationFlag (migration : Value) (flag : String) (given : Value)

namespace OperationFault

/-- What is said about a malformed operation. -/
def message : OperationFault → String
  | .tooManyFields kind limit given => s!"{kind.name} takes at most {limit} fields, got {given}"
  | .givenTwice kind field => s!"{kind.name} got {Text.quoted field} twice"
  | .foreignFlag kind field => s!"{Text.quoted field} is not valid for {kind.name}"
  | .unknownField kind field => s!"Unknown field {Text.quoted field} for {kind.name}"
  | .missing kind field => s!"{kind.name} requires {Text.quoted field}"
  | .notAFlag kind field given => s!"{kind.name}.{field} must be a bool, got {given.shown}"
  | .sameName kind name => s!"{kind.name} to the same name {name.shown}"
  | .unidentifiedIndex => "RemoveIndex requires 'name' or 'columns'"
  | .untargetedValidation => "ValidateForeignKey requires 'to_table' or 'name'"
  | .unknownKind given => s!"Unknown operation type: {given.shown}"
  | .noKind => "Operation dict has no 'type' key"
  | .notAnOperation migration given =>
    s!"Migration {migration.shown} contains a non-operation: {given.shown}"
  | .migrationFlag migration flag given =>
    s!"Migration {migration.shown}: {flag} must be a bool, got {given.shown}"

/-- The kind of the operation at fault, as it was given; null where none is involved. -/
def kind : OperationFault → Value
  | .tooManyFields k _ _ | .givenTwice k _ | .foreignFlag k _ | .unknownField k _
  | .missing k _ | .notAFlag k _ _ | .sameName k _ => .text k.name
  | .unidentifiedIndex => .text Operation.Kind.removeIndex.name
  | .untargetedValidation => .text Operation.Kind.validateForeignKey.name
  | .unknownKind given => given
  | .noKind | .notAnOperation _ _ | .migrationFlag _ _ _ => .null

/-- The field at fault. -/
def field : OperationFault → Option String
  | .givenTwice _ f | .foreignFlag _ f | .unknownField _ f | .missing _ f | .notAFlag _ f _
  | .migrationFlag _ f _ => some f
  | .sameName _ _ => some "new_name"
  | .unidentifiedIndex => some "name"
  | .untargetedValidation => some "to_table"
  | .tooManyFields _ _ _ | .unknownKind _ | .noKind | .notAnOperation _ _ => none

end OperationFault

/-- Why a number or an alignment of lists is refused. -/
inductive ValueFault where
  | invalidVersion (given : Value)
  | tooLong (digits : Nat)
  | unknownVersion
  | misaligned
  | negativeConcurrency

/-- What is said about a refused value. -/
def ValueFault.message : ValueFault → String
  | .invalidVersion given => s!"Invalid engine version: {given.shown}"
  | .tooLong digits => Text.tooLongMessage digits
  | .unknownVersion => "Engine version is unknown"
  | .misaligned => "verdicts must align with the batch's units and operations"
  | .negativeConcurrency => "Semaphore initial value must be >= 0"

/-- Why a setting is refused. -/
inductive SettingFault where
  | missing
  | notAnEngineKind
  | notAStatus
  | notText
  | notAMapping
  | notAVersion
  | refused (why : ValueFault)

namespace SettingFault

/-- The short name of a cause. -/
def code : SettingFault → String
  | .missing => "missing"
  | .notAnEngineKind | .notAStatus => "enum"
  | .notText => "string_type"
  | .notAMapping => "dict_type"
  | .notAVersion => "tuple_type"
  | .refused _ => "value_error"

/-- What is said about a refused setting. -/
def message : SettingFault → String
  | .missing => "Field required"
  | .notAnEngineKind => "Input should be 'postgres', 'mysql' or 'mariadb'"
  | .notAStatus => "Input should be 'safe', 'conditionally_safe' or 'unsafe'"
  | .notText => "Input should be a valid string"
  | .notAMapping => "Input should be a valid dictionary"
  | .notAVersion => "Input should be a valid tuple"
  | .refused why => "Value error, " ++ why.message

end SettingFault

/-- A refused setting and where it stands: the names on the way to it, outermost first. -/
structure Problem where
  path : List String
  fault : SettingFault

/-- The settings of an engine, or of an analysis. -/
inductive SettingsOwner where
  | engine
  | analysis
  deriving DecidableEq, Repr

/-- The name of a group of settings. -/
def SettingsOwner.name : SettingsOwner → String
  | .engine => "Engine"
  | .analysis => "AnalyzerConfig"

/-- How many settings were refused. -/
def problemSummary (owner : SettingsOwner) (problems : List Problem) : String :=
  let noun := if problems.length == 1 then "error" else "errors"
  s!"{problems.length} validation {noun} for {owner.name}"

/-- The refused settings, one a line. -/
def problemDetails (problems : List Problem) : String :=
  String.join (problems.map fun p => "\n" ++ ".".intercalate p.path ++ "\n  " ++ p.fault.message)

/-- What the variables of the environment that hold settings start with. -/
def variableStem : String := "MIGRATIONGUARD_"

/-- Why an engine or the settings of an analysis cannot be used. -/
inductive ConfigurationFault where
  | unknownEngine (name : String)
  | invalidEngine (spec : String) (problems : List Problem)
  | invalidEnvironment (problems : List Problem)
  | unknownStart (name : String)

namespace ConfigurationFault

/-- What is said in one line about settings that cannot be used. -/
def summary : ConfigurationFault → String
  | .unknownEngine name => s!"Unknown engine: {Text.quoted name}"
  | .invalidEngine spec problems =>
    s!"Invalid engine spec {Text.quoted spec}: {problemSummary .engine problems}"
  | .invalidEnvironment problems =>
    s!"Invalid {variableStem}* environment: {problemSummary .analysis problems}"
  | .unknownStart name => s!"start_after {Text.quoted name} is not a migration in this batch"

/-- The refused settings behind a fault; `none` where no settings were checked. -/
def problems? : ConfigurationFault → Option (List Problem)
  | .invalidEngine _ problems | .invalidEnvironment problems => some problems
  | .unknownEngine _ | .unknownStart _ => none

/-- What is said about settings that cannot be used. -/
def message (f : ConfigurationFault) : String :=
  f.summary ++ problemDetails (f.problems?.getD [])

end ConfigurationFault

/-- Why a file is not read. -/
inductive ReadFault where
  | missing
  | directory
  | notADirectory
  deriving DecidableEq, Repr

/-- The number and the words of a fault in reading. -/
def ReadFault.description : ReadFault → String
  | .missing => "[Errno 2] No such file or directory"
  | .directory => "[Errno 21] Is a directory"
  | .notADirectory => "[Errno 20] Not a directory"

/-- Why no migrations are found at a path. -/
inductive LoadFault where
  | unreadable (why : ReadFault)
  | notJson
  | noMigrations
  | unnamed (index : Nat)
  | notImported (file why : String)
  | unsupportedPath
  deriving DecidableEq, Repr

/-- What is said when no migrations are found at a path. -/
def LoadFault.message (path : String) : LoadFault → String
  | .unreadable why => s!"Cannot read {path}: {why.description}: {Text.quoted path}"
  | .notJson => s!"Invalid JSON in {path}"
  | .noMigrations => s!"{path} must contain a 'migrations' list"
  | .unnamed index => s!"Migration #{index} in {path} has no 'name'"
  | .notImported file why => s!"Failed to import {file}: {why}"
  | .unsupportedPath => s!"Expected a migrations directory or a .json file: {path}"

/-- Why it cannot be told whether an engine has a feature. -/
structure UnknownBehavior where
  feature : String
  engine : EngineKind
  /-- Whether a threshold is known, so that the version of the engine is what is missing. -/
  thresholdKnown : Bool
  deriving DecidableEq, Repr

/-- What is said when it cannot be told whether an engine has a feature. -/
def UnknownBehavior.message (u : UnknownBehavior) : String :=
  if u.thresholdKnown then s!"No version given for {u.engine.name}; {u.feature} unknown"
  else s!"No {u.feature} threshold for {u.engine.name}"

/-- How a value does not fit its use. -/
inductive ShapeFault where
  | notASequence (given : Value)
  | notAContainer (given : Value)
  | notAKey (given : Value)
  | notText (given : Value)
  | reservedField (name : String)
  | wrongArguments
  | noMember (given : Value) (member : String)
  | noField (key : String)

/-- The name of the shape of a value. -/
def Value.shapeName : Value → String
  | .null => "NoneType"
  | .flag _ => "bool"
  | .int _ => "int"
  | .float _ => "float"
  | .text _ => "str"
  | .list _ => "list"
  | .record _ => "dict"

/-- What is said about a value that does not fit its use. -/
def ShapeFault.message : ShapeFault → String
  | .notASequence v => s!"'{v.shapeName}' object is not iterable"
  | .notAContainer v => s!"argument of type '{v.shapeName}' is not iterable"
  | .notAKey v => s!"unhashable type: '{v.shapeName}'"
  | .notText v => s!"expected string or bytes-like object, got '{v.shapeName}'"
  | .reservedField name => s!"got multiple values for argument {Text.quoted name}"
  | .wrongArguments => "wrong arguments"
  | .noMember v member => s!"'{v.shapeName}' object has no attribute {Text.quoted member}"
  | .noField key => Text.quoted key

/-- Why something stops. -/
inductive Failure where
  | operation (fault : OperationFault)
  | configuration (fault : ConfigurationFault)
  | settings (owner : SettingsOwner) (problems : List Problem)
  | loading (path : String) (fault : LoadFault)
  | value (fault : ValueFault)
  | unknownBehavior (unknown : UnknownBehavior)
  | uncovered (kind : Operation.Kind)
  | differentFamilies (a b : Lock)
  | shape (fault : ShapeFault)
  | undecodable

namespace Failure

/-- What is said about a failure. -/
def message : Failure → String
  | .operation fault => fault.message
  | .configuration fault => fault.message
  | .settings owner problems => problemSummary owner problems ++ problemDetails problems
  | .loading path fault => fault.message path
  | .value fault => fault.message
  | .unknownBehavior unknown => unknown.message
  | .uncovered kind => s!"No rule covers operation kind {Text.quoted kind.name}"
  | .differentFamilies a b =>
    s!"Cannot compare lock modes of different engines: {a.shown}, {b.shown}"
  | .shape fault => fault.message
  | .undecodable => "invalid UTF-8"

/-- Whether a failure is one that the command line reports; any other one is a defect of the plan
that it does not foresee. -/
def isReported : Failure → Bool
  | .operation _ | .configuration _ | .loading _ _ | .unknownBehavior _ | .uncovered _ => true
  | .settings _ _ | .value _ | .differentFamilies _ _ | .shape _ | .undecodable => false

end Failure

/-- The result of something that may stop. -/
abbrev Outcome := Except Failure

end MigrationSafety
