import MigrationSafety.Sequencing.NewTable
import MigrationSafety.Sequencing.Placed

/-!
# Constraints are validated later

A constraint that is added without validation has to be validated, in a later migration, so that
it is committed first. A validation that runs before every constraint that it could be about is a
violation too.

* `Operation.validates`: which constraint a validation is about;
* `validationViolations`: the violations of a plan.
-/

namespace MigrationSafety

/-- The rule that a constraint is not validated in the migration that adds it. -/
def deferredRule : String := "validation-must-be-deferred"

/-- The rule that a constraint is added before it is validated. -/
def validateFirstRule : String := "validate-before-create"

namespace Operation

/-- Whether the first operation, a validation, is about a foreign key with the given table, target
and name. Names decide if both have one, and targets otherwise. -/
def foreignKeyMatches (table toTable name : Value) (vTable vToTable vName : Value) : Bool :=
  table.equal vTable &&
    if name.truthy && vName.truthy then name.equal vName
    else
      match vToTable with
      | .null => false
      | _ => toTable.equal vToTable

/-- Whether the second operation validates the constraint that the first one adds. -/
def validatedBy (creation validation : Operation) : Bool :=
  match creation, validation with
  | .addForeignKey table toTable _ name _, .validateForeignKey vTable vToTable vName =>
    foreignKeyMatches table toTable name vTable vToTable vName
  | .addCheckConstraint table expression name _, .validateCheckConstraint vTable vName =>
    table.equal vTable && (constraintNameOf table expression name).equal vName
  | _, _ => false

/-- Whether an operation adds a constraint without validating it. -/
def addsUnvalidated : Operation → Bool
  | .addForeignKey _ _ _ _ validate | .addCheckConstraint _ _ _ validate => !validate
  | _ => false

/-- Whether an operation validates a constraint. -/
def isValidation : Operation → Bool
  | .validateForeignKey _ _ _ | .validateCheckConstraint _ _ => true
  | _ => false

end Operation

/-- The constraints of a plan that are added without validation. -/
def Plan.unvalidated (p : Plan) : List PlacedOperation :=
  p.placed.filter (·.operation.addsUnvalidated)

/-- The validations of a plan. -/
def Plan.validations (p : Plan) : List PlacedOperation :=
  p.placed.filter (·.operation.isValidation)

/-- Whether the table of an operation is created somewhere in the migration it stands in. -/
def Plan.onCreatedTable (p : Plan) (op : PlacedOperation) : Bool :=
  p.migrations.zipIdx.any fun (m, i) =>
    op.ref.migration == i && op.operation.table.among (createdTables m.operations)

/-- Whether a validation should have been left to a later migration. -/
def Plan.mustDefer (p : Plan) (v c : PlacedOperation) : Bool :=
  c.ref.migration == v.ref.migration && !p.onCreatedTable c

/-- The violation by a validation in the migration of its constraint. -/
def deferredViolation (v c : PlacedOperation) : Traced Violation := do
  let validation ← v.operation.describe
  let creation ← c.operation.describe
  Violation.found deferredRule
    (s!"{validation} is in the same migration as {creation}; validate in a later migration so " ++
      "the constraint is committed first.") c.ref v.ref

/-- The violation by a validation that runs before its constraint is added. -/
def validateFirstViolation (v c : PlacedOperation) : Traced Violation := do
  let validation ← v.operation.describe
  let creation ← c.operation.describe
  Violation.found validateFirstRule s!"{validation} runs before {creation}." v.ref c.ref

/-- The violations by one validation, given the constraints that it could be about in the order in
which they are added. -/
def violationsOf (p : Plan) (v : PlacedOperation) (creations : List PlacedOperation) :
    Traced (List Violation) := do
  let deferred ← Traced.forEach (deferredViolation v) (creations.filter (p.mustDefer v))
  match creations with
  | [] => pure []
  | c :: _ =>
    if creations.all fun c => v.ref.before c.ref then do
      let first ← validateFirstViolation v c
      pure (deferred ++ [first])
    else pure deferred

/-- The violations by validations in a plan. -/
def validationViolations (p : Plan) : Traced (List Violation) := do
  let found ← Traced.forEach (fun v : PlacedOperation =>
      violationsOf p v (p.unvalidated.filter fun c => c.operation.validatedBy v.operation))
    p.validations
  pure found.flatten

end MigrationSafety
