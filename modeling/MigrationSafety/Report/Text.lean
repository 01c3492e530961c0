import MigrationSafety.Report.Basic
import MigrationSafety.Text.Wrap

/-!
# Reports as text

A report for people: the results under a heading for each migration, the violations, and a summary.
Safe operations are listed without their rationale unless that is asked for.

* `Report.lines`: the lines of the text;
* `Report.toText`: the text.
-/

namespace MigrationSafety

/-- The mark in front of a result. -/
def Status.mark : Status → String
  | .safe => "ok"
  | .conditionallySafe => "??"
  | .unsafeChange => "!!"

/-- What stands behind something that an author vouches for. -/
def assuredNote (assured : Bool) : String :=
  if assured then " (assured)" else ""

/-- A paragraph below a line of a report. -/
def reportParagraph (s : String) : String :=
  Text.wrap 88 8 s

/-- The lines about a result. -/
def Result.lines (verbose : Bool) (r : Result) : Outcome (List String) := do
  let description ← r.operation.describe
  let v := r.verdict
  let head := s!"  [{v.status.mark}] {description}{assuredNote v.assured}"
  let remedy := if v.remedy == .nothing then [] else [s!"        remediation: {v.remedy.name}"]
  if v.status == .safe && !verbose then .ok [head]
  else .ok (head :: reportParagraph v.rationale :: remedy)

/-- The lines about a violation. -/
def Violation.lines (v : Violation) : List String :=
  [s!"  [{v.rule}] {v.first.display} / {v.second.display}{assuredNote v.assured}",
    reportParagraph v.message]

namespace Report

/-- The heading of a migration, if the result before was of a migration with another name; an
empty line parts it from what comes before. -/
def heading (current name : Value) : List String :=
  if name.equal current then []
  else
    match current with
    | .null => [s!"{name.display}:"]
    | _ => ["", s!"{name.display}:"]

/-- The lines about results, each migration under its heading, after a result of a migration with
the name `current`. -/
def resultLines (verbose : Bool) (current : Value) : List Result → Outcome (List String)
  | [] => .ok []
  | r :: rs => do
    let own ← r.lines verbose
    let rest ← resultLines verbose (if r.ref.name.equal current then current else r.ref.name) rs
    .ok (heading current r.ref.name ++ own ++ rest)

/-- The lines about violations. -/
def violationLines (r : Report) : List String :=
  if r.violations.isEmpty then []
  else "" :: "Sequencing violations:" :: r.violations.flatMap Violation.lines

/-- The summary at the end. -/
def summaryLines (r : Report) : List String :=
  ["",
    s!"{r.count .safe} safe, {r.count .conditionallySafe} conditionally safe, " ++
      s!"{r.count .unsafeChange} unsafe, {r.violations.length} sequencing violation(s)",
    s!"Worst severity: {r.worst.name}"]

/-- The lines of a report. -/
def lines (r : Report) (verbose : Bool) : Outcome (List String) := do
  let results ← resultLines verbose .null r.results
  let nothing := if r.results.isEmpty then ["No operations to analyze."] else []
  .ok ([s!"Migration safety report for {r.engine.label}", ""] ++ results ++ nothing ++
    r.violationLines ++ r.summaryLines)

/-- The text of a report. -/
def toText (r : Report) (verbose : Bool) : Outcome String := do
  let lines ← r.lines verbose
  .ok (String.join (lines.map (· ++ "\n")))

end Report

end MigrationSafety
