import MigrationSafety.Engine.Basic
import MigrationSafety.Operation.Describe
import MigrationSafety.Sequencing.Reference
import MigrationSafety.Verdict

/-!
# Reports

What an analysis found: a verdict for every operation, and the violations between operations, both
in the order of the plan whatever the order in which they are put in.

* `Report.build`: puts results and violations in order;
* `Report.worst`, `Report.counts`: the report in short;
* `Report.isBlocking`: whether the plan should not be deployed.
-/

namespace MigrationSafety

/-- An operation and its verdict. -/
structure Result where
  ref : OperationRef
  operation : Operation
  verdict : Verdict

/-- What an analysis found. -/
structure Report where
  engine : Engine
  results : List Result
  violations : List Violation
  /-- The least dangerous status that keeps a plan from being deployed. -/
  failOn : Status

/-- Whether a violation comes before another one: by its first operation, then its second one,
then its rule. -/
def Violation.before (a b : Violation) : Bool :=
  a.first.before b.first ||
    (a.first.samePlace b.first &&
      (a.second.before b.second || (a.second.samePlace b.second && decide (a.rule < b.rule))))

namespace Report

/-- Puts results and violations in order. Those with the same place stay in the order given. -/
def build (engine : Engine) (results : List Result) (violations : List Violation)
    (failOn : Status) : Report :=
  { engine
    results := results.mergeSort fun a b => !b.ref.before a.ref
    violations := violations.mergeSort fun a b => !b.before a
    failOn }

/-- The results whose verdict is unsafe. -/
def unsafeResults (r : Report) : List Result :=
  r.results.filter (·.verdict.status == .unsafeChange)

/-- The results of the migrations with a name. -/
def resultsFor (r : Report) (name : Value) : List Result :=
  r.results.filter (·.ref.name.equal name)

/-- The most dangerous status in a report; a violation is unsafe. That an author vouches for a
migration does not change what it does, so it does not matter here. -/
def worst (r : Report) : Status :=
  if r.violations.isEmpty then (r.results.map (·.verdict.status)).foldl Status.worse .safe
  else .unsafeChange

/-- Whether a plan should not be deployed: a violation or a verdict dangerous enough, and nobody
who vouches for it. -/
def isBlocking (r : Report) : Bool :=
  r.violations.any (!·.assured) ||
    r.results.any fun x => !x.verdict.assured && r.failOn.rank ≤ x.verdict.status.rank

/-- The number of results with a status. -/
def count (r : Report) (s : Status) : Nat :=
  r.results.countP (·.verdict.status == s)

/-- The number of results with each status. -/
def counts (r : Report) : List (String × Value) :=
  Status.all.map fun s => (s.name, .int (r.count s))

end Report

end MigrationSafety
