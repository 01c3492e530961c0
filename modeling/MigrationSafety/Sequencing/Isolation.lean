import MigrationSafety.Sequencing.Placed

/-!
# Concurrent index operations stand alone

An index that is built or dropped concurrently has to be the only operation of its migration. Each
pair of a concurrent operation and another one of its migration is a violation, and a pair of two
concurrent ones is reported once.

* `isolationPairs`: the pairs of a migration;
* `isolationViolations`: the violations of a plan.
-/

namespace MigrationSafety

/-- The rule that a concurrent index operation stands alone. -/
def isolationRule : String := "concurrent-index-must-be-isolated"

/-- Whether a pair of operations of one migration, the first one concurrent, is to be reported
from the side of the first one. -/
def isolationPair (c o : PlacedOperation) : Bool :=
  !(o.ref.samePlace c.ref || (o.operation.concurrently && o.ref.before c.ref))

/-- The pairs of operations that violate isolation, the concurrent one first. -/
def isolationPairs (ops : List PlacedOperation) : List (PlacedOperation × PlacedOperation) :=
  if ops.length < 2 then []
  else
    (ops.filter (·.operation.concurrently)).flatMap fun c =>
      (ops.filter (isolationPair c)).map (c, ·)

/-- The violation by a pair. -/
def isolationViolation (pair : PlacedOperation × PlacedOperation) : Traced Violation := do
  let (c, o) := pair
  let concurrent ← c.operation.describe
  let other ← o.operation.describe
  Violation.found isolationRule
    (s!"{concurrent} must be the only operation in {c.ref.name.display}; move {other} to " ++
      "another migration.") c.ref o.ref

/-- The violations of isolation in a plan. -/
def isolationViolations (p : Plan) : Traced (List Violation) :=
  Traced.forEach isolationViolation
    (p.migrations.zipIdx.flatMap fun (m, i) => isolationPairs (m.placed i))

end MigrationSafety
