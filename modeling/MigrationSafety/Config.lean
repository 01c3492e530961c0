import MigrationSafety.Engine.Basic
import MigrationSafety.Threshold
import MigrationSafety.Verdict

/-!
# Settings of an analysis

* `Config.ofFields`, `Config.ofEnvironment`: read settings;
* `Config.thresholds`: the built-in thresholds with the overrides of the settings;
* `Config.reported`: which migrations are reported.
-/

namespace MigrationSafety

/-- The settings of an analysis. -/
structure Config where
  /-- The last migration that has been applied; it and those before it are not reported. -/
  startAfter : Option String := none
  /-- The least dangerous status that keeps a plan from being deployed. -/
  failOn : Status := .unsafeChange
  /-- Thresholds that replace built-in ones. -/
  overrides : Thresholds := []

namespace Config

/-- Checks the name of the last migration that has been applied. -/
def checkStartAfter : Value → Except SettingFault (Option String)
  | .null => .ok none
  | .text s => .ok (some s)
  | _ => .error .notText

/-- Checks a status. Case does not matter, and hyphens stand for underscores. -/
def checkStatus : Value → Except SettingFault Status
  | .text s =>
    let name := (Text.lower (Text.trim s)).map fun c => if c == '-' then '_' else c
    match Status.ofName? name with
    | some status => .ok status
    | none => .error .notAStatus
  | _ => .error .notAStatus

/-- Why overrides are refused: some version is none, or a value is not what it should be. -/
inductive OverrideFault where
  | setting (fault : SettingFault)
  | shape (fault : ShapeFault)

/-- The versions that the overrides of one feature give, where a kind may have none. -/
def readEntries : Value → Except OverrideFault (List (String × Option Version))
  | .record entries =>
    entries.mapM fun (kind, given) =>
      match Version.ofValue given with
      | .ok version => .ok (kind, version)
      | .error why => .error (.setting (.refused why))
  | v => .error (.shape (.noMember v "items"))

/-- The versions that overrides give. -/
def readOverrides : Value → Except OverrideFault (List (String × List (String × Option Version)))
  | .record features =>
    features.mapM fun (feature, entries) => do
      let entries ← readEntries entries
      .ok (feature, entries)
  | _ => .error (.setting .notAMapping)

/-- The name of the setting for overrides. -/
def overridesName : String := "version_thresholds"

/-- What is wrong with an override. -/
def entryProblems (feature kind : String) (version : Option Version) : List Problem :=
  let name :=
    if (EngineKind.ofName? kind).isSome then []
    else [⟨[overridesName, feature, kind, "[key]"], .notAnEngineKind⟩]
  name ++ if version.isSome then [] else [⟨[overridesName, feature, kind], .notAVersion⟩]

/-- The entries that are right. -/
def rightEntries (entries : List (String × Option Version)) : List (EngineKind × Version) :=
  entries.filterMap fun (kind, version) =>
    match EngineKind.ofName? kind, version with
    | some kind, some version => some (kind, version)
    | _, _ => none

/-- Checks overrides: the thresholds, or the problems. -/
def checkOverrides (given : Value) : Except ShapeFault (Except (List Problem) Thresholds) :=
  match readOverrides given with
  | .error (.shape fault) => .error fault
  | .error (.setting fault) => .ok (.error [⟨[overridesName], fault⟩])
  | .ok features =>
    let problems := features.flatMap fun (feature, entries) =>
      entries.flatMap fun (kind, version) => entryProblems feature kind version
    if problems.isEmpty then
      .ok (.ok (features.map fun (feature, entries) => (feature, rightEntries entries)))
    else .ok (.error problems)

/-- Builds settings from named values; names that are none of theirs are ignored. -/
def ofFields (fields : List (String × Value)) : Outcome Config :=
  let startAfter := checkStartAfter ((fields.lookup "start_after").getD .null)
  let failOn := checkStatus ((fields.lookup "fail_on").getD (.text Status.unsafeChange.name))
  match checkOverrides ((fields.lookup overridesName).getD (.record [])) with
  | .error fault => .error (.shape fault)
  | .ok overrides =>
    match startAfter, failOn, overrides with
    | .ok startAfter, .ok failOn, .ok overrides => .ok ⟨startAfter, failOn, overrides⟩
    | startAfter, failOn, overrides =>
      let problems := (Engine.problem? "start_after" startAfter).toList ++
        (Engine.problem? "fail_on" failOn).toList ++
        (match overrides with
        | .ok _ => []
        | .error problems => problems)
      .error (.settings .analysis problems)

/-- The settings that the environment gives; an empty variable gives none. -/
def environmentFields (environment : List (String × String)) : List (String × Value) :=
  [("start_after", "START_AFTER"), ("fail_on", "FAIL_ON")].filterMap fun (field, suffix) =>
    match environment.lookup (variableStem ++ suffix) with
    | none | some "" => none
    | some s => some (field, .text s)

/-- Builds settings from variables of the environment. -/
def ofEnvironment (environment : List (String × String)) : Outcome Config :=
  match ofFields (environmentFields environment) with
  | .error (.settings .analysis problems) =>
    .error (.configuration (.invalidEnvironment problems))
  | outcome => outcome

/-- The built-in thresholds with the overrides of the settings. -/
def thresholds (c : Config) : Thresholds :=
  Thresholds.builtIn.override c.overrides

/-- The indexes of the migrations that are reported: those after the first one with the name of the
last applied one. -/
def reported (c : Config) (names : List Value) : Outcome (List Nat) :=
  match c.startAfter with
  | none => .ok (List.range names.length)
  | some name =>
    match names.findIdx? (·.equal (.text name)) with
    | none => .error (.configuration (.unknownStart name))
    | some applied => .ok ((List.range names.length).drop (applied + 1))

end Config

end MigrationSafety
