import MigrationSafety.Sequencing.Isolation
import MigrationSafety.Sequencing.NotNull
import MigrationSafety.Sequencing.Validation

/-!
# What the whole plan says

The second pass over a plan, after every operation has a verdict of its own. It finds operations
that stand wrongly to each other, and corrects verdicts that hang on what came before: first
operations on new tables, then concurrent index operations, then validations, then NOT NULL.

* `sequence`: the corrected verdicts and the violations in the order in which they are found.
-/

namespace MigrationSafety

/-- Verdicts by migration, and violations. -/
structure Sequenced where
  verdicts : List (List Verdict)
  violations : List Violation

/-- Whether there is one verdict for every operation of a plan. -/
def aligned (p : Plan) (verdicts : List (List Verdict)) : Bool :=
  p.migrations.length == verdicts.length &&
    (p.migrations.zip verdicts).all fun (m, row) => m.operations.length == row.length

/-- The operations of a plan with their verdicts, migration by migration. -/
def rowsOf (p : Plan) (verdicts : List (List Verdict)) : List (List (Operation × Verdict)) :=
  (p.migrations.zip verdicts).map fun (m, row) => m.operations.zip row

/-- The second pass over a plan. -/
def sequence (p : Plan) (verdicts : List (List Verdict)) : Traced Sequenced :=
  if !aligned p verdicts then Traced.ofOutcome (.error (.value .misaligned))
  else do
    let verdicts ← exemptRows (rowsOf p verdicts)
    let isolation ← isolationViolations p
    let validation ← validationViolations p
    let verdicts ← refineRows .empty (rowsOf p verdicts)
    pure ⟨verdicts, isolation ++ validation⟩

end MigrationSafety
