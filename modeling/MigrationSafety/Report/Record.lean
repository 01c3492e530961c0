import MigrationSafety.Json.Printer
import MigrationSafety.Report.Basic

/-!
# Reports as data

* `Report.record`: a report as a record;
* `Report.toJson`: the JSON text of it, the same for the same report;
* `Report.rows`: the results as rows of a table.
-/

namespace MigrationSafety

/-- A result as a record. -/
def Result.record (r : Result) : Outcome Value := do
  let description ← r.operation.describe
  .ok (.record (r.ref.fields ++
    [("operation", r.operation.record), ("description", .text description),
      ("verdict", r.verdict.record)]))

/-- An engine as a record. -/
def Engine.record (e : Engine) : Value :=
  .record
    [("kind", .text e.kind.name),
      ("version",
        match e.version with
        | none => .null
        | some v => .list (v.components.map fun (n : Nat) => .int n)),
      ("time_zone", .text e.timeZone)]

namespace Report

/-- A report as a record. -/
def record (r : Report) : Outcome Value := do
  let results ← r.results.mapM Result.record
  .ok (.record
    [("engine", r.engine.record), ("worst_severity", .text r.worst.name),
      ("has_blocking_issues", .flag r.isBlocking), ("counts", .record r.counts),
      ("results", .list results), ("violations", .list (r.violations.map Violation.record))])

/-- The JSON text of a report, its keys in order. -/
def toJson (r : Report) (indent : Option Nat) : Outcome String := do
  let v ← r.record
  .ok (Json.render v.sortKeys indent)

/-- The columns of the table of results. -/
def columns : List String :=
  ["unit", "index", "kind", "description", "status", "remediation", "rule_id", "assured"]

/-- A result as a row of the table. -/
def row (r : Result) : Outcome (List Value) := do
  let description ← r.operation.describe
  .ok [r.ref.name, .int r.ref.index, .text r.operation.kind.name, .text description,
    .text r.verdict.status.name, .text r.verdict.remedy.name, .text r.verdict.rule,
    .flag r.verdict.assured]

/-- The results as rows of a table. -/
def rows (r : Report) : Outcome (List (List Value)) :=
  r.results.mapM row

end Report

end MigrationSafety
