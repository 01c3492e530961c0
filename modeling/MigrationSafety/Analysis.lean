import MigrationSafety.Config
import MigrationSafety.Report.Basic
import MigrationSafety.Sequencing.Sequence

/-!
# Analyzing plans

Every operation is judged by itself, the plan as a whole corrects the verdicts and adds violations,
and the settings say what of it is reported.

* `classifyPlan`: the verdicts of the first pass;
* `analyze`: the report about a plan;
* `analyzeMany`: reports about several plans.
-/

namespace MigrationSafety

/-- The verdicts about the operations of a plan, each operation by itself. -/
def classifyPlan (config : Config) (kb : KnowledgeBase) (engine : Engine) (p : Plan) :
    Traced (List (List Verdict)) :=
  Traced.forEach (fun m : Migration =>
      Traced.forEach (classify Rule.table ⟨engine, m.noTransaction, config.thresholds⟩ kb)
        m.operations)
    p.migrations

/-- Whether the migration at an index has an author who vouches for it. -/
def Plan.isAssured (p : Plan) (index : Int) : Bool :=
  p.migrations.zipIdx.any fun (m, i) => index == i && m.assured

/-- The results of a migration. -/
def Migration.results (m : Migration) (index : Nat) (verdicts : List Verdict) : List Result :=
  ((m.placed index).zip verdicts).map fun (placed, v) =>
    ⟨placed.ref, placed.operation, { v with assured := v.assured || m.assured }⟩

/-- The results of the migrations that are reported. -/
def Plan.results (p : Plan) (reported : List Nat) (verdicts : List (List Verdict)) :
    List Result :=
  (p.migrations.zipIdx.zip verdicts).flatMap fun ((m, i), row) =>
    if reported.contains i then m.results i row else []

/-- Whether one of the operations of a violation is in a migration that is reported. -/
def Violation.touches (v : Violation) (reported : List Nat) : Bool :=
  reported.any fun i => v.first.migration == i || v.second.migration == i

/-- A violation is assured if the authors of both migrations vouch for them. -/
def Violation.assure (v : Violation) (p : Plan) : Violation :=
  if p.isAssured v.first.migration && p.isAssured v.second.migration then
    { v with assured := true }
  else v

/-- The violations that are reported. -/
def Plan.reportedViolations (p : Plan) (reported : List Nat) (violations : List Violation) :
    List Violation :=
  (violations.filter (·.touches reported)).map (·.assure p)

/-- What the log says at the end of an analysis. -/
def analysisNote (p : Plan) (reported : List Nat) (r : Report) : String :=
  s!"Analyzed {r.results.length} operation(s) in {reported.length} migration(s) for " ++
    s!"{r.engine.label} ({p.migrations.length - reported.length} skipped): " ++
    s!"worst={r.worst.name}, violations={r.violations.length}"

/-- The report about a plan. -/
def analyze (config : Config) (kb : KnowledgeBase) (engine : Engine) (p : Plan) :
    Traced Report := do
  let reported ← config.reported (p.migrations.map (·.name))
  let verdicts ← classifyPlan config kb engine p
  let sequenced ← sequence p verdicts
  let report := Report.build engine (p.results reported sequenced.verdicts)
    (p.reportedViolations reported sequenced.violations) config.failOn
  Traced.say .info (analysisNote p reported report)
  pure report

/-- The reports about several plans, in their order. At most `limit` of them are to be analyzed
at a time; zero is no limit. -/
def analyzeMany (config : Config) (engine : Engine) (limit : Option Int) (plans : List Plan) :
    Traced (List Report) :=
  if limit.any (· < 0) then Traced.ofOutcome (.error (.value .negativeConcurrency))
  else Traced.forEach (analyze config .builtIn engine) plans

end MigrationSafety
