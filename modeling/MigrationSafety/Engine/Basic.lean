import MigrationSafety.Version

/-!
# Engines

The database engine that a plan is judged for: its kind, its version if that is known, and the
time zone of its sessions.

* `Engine.parse`: reads `postgres:12`, `mysql:8.0.12` or a bare `mariadb`;
* `Engine.ofFields`: builds an engine from named settings;
* `Engine.label`: the engine as reports name it.
-/

namespace MigrationSafety

/-- A database engine. -/
structure Engine where
  kind : EngineKind
  version : Option Version
  timeZone : String
  deriving DecidableEq

namespace Engine

/-- Whether the engine is Postgres. -/
def isPostgres (e : Engine) : Bool :=
  e.kind == .postgres

/-- Whether the engine is of the MySQL family. -/
def isMysqlFamily (e : Engine) : Bool :=
  e.kind == .mysql || e.kind == .mariadb

/-- The time zone of a session unless one is given. -/
def defaultTimeZone : String := "UTC"

/-- Checks the kind of an engine. -/
def checkKind : Option Value → Except SettingFault EngineKind
  | none => .error .missing
  | some (.text s) =>
    match EngineKind.ofAlias? s with
    | some kind => .ok kind
    | none => .error .notAnEngineKind
  | some _ => .error .notAnEngineKind

/-- Checks the version of an engine. -/
def checkVersion (given : Value) : Except SettingFault (Option Version) :=
  (Version.ofValue given).mapError .refused

/-- Checks a setting that is a text. -/
def checkText : Value → Except SettingFault String
  | .text s => .ok s
  | _ => .error .notText

/-- The problem with a setting, if it was refused. -/
def problem? {α : Type} (name : String) (checked : Except SettingFault α) : Option Problem :=
  match checked with
  | .ok _ => none
  | .error fault => some ⟨[name], fault⟩

/-- Builds an engine, or lists what is wrong with the settings, in the order of the fields. -/
def check (kind : Option Value) (version timeZone : Value) : Except (List Problem) Engine :=
  match checkKind kind, checkVersion version, checkText timeZone with
  | .ok kind, .ok version, .ok timeZone => .ok ⟨kind, version, timeZone⟩
  | kind, version, timeZone =>
    .error ([problem? "kind" kind, problem? "version" version,
      problem? "time_zone" timeZone].filterMap id)

/-- Builds an engine of a known kind. -/
def ofParts (kind : EngineKind) (version timeZone : Value) : Outcome Engine :=
  (check (some (.text kind.name)) version timeZone).mapError (.settings .engine)

/-- Builds an engine from named settings; names that are none of its own are ignored. -/
def ofFields (fields : List (String × Value)) : Outcome Engine :=
  (check (fields.lookup "kind") ((fields.lookup "version").getD .null)
    ((fields.lookup "time_zone").getD (.text defaultTimeZone))).mapError (.settings .engine)

/-- Reads the name of an engine, with a version after a colon if one is known. -/
def parse (spec : String) (timeZone : Value) : Outcome Engine :=
  let (name, version) := Text.splitAtFirst ':' spec.toList
  match EngineKind.ofAlias? (String.ofList name) with
  | none => .error (.configuration (.unknownEngine (String.ofList name)))
  | some kind =>
    let version := if version.isEmpty then .null else .text (String.ofList version)
    (check (some (.text kind.name)) version timeZone).mapError
      fun problems => .configuration (.invalidEngine spec problems)

/-- The engine as reports name it. -/
def label (e : Engine) : String :=
  match e.version with
  | none => e.kind.name
  | some v => s!"{e.kind.name} {v.display}"

/-- Whether the version of the engine reaches a threshold. -/
def reaches (e : Engine) (threshold : List Nat) : Outcome Bool :=
  match e.version with
  | none => .error (.value .unknownVersion)
  | some v => .ok (Version.reaches v.components threshold)

end Engine

end MigrationSafety
