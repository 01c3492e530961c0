import MigrationSafety.Operation.Basic
import MigrationSafety.Rule.Classify

/-!
# Operations on new tables

A table that the same migration has created is empty and not in use, so most dangers do not matter
for it. Verdicts that name such a danger become safe.

* `exemptRow`, `exemptRows`: the verdicts of one migration, or of all, with this done;
* `createdTables`: the tables that a list of operations creates.
-/

namespace MigrationSafety

/-- The rules whose verdicts do not matter for a new table. -/
def exemptRules : List String :=
  ["create-index", "remove-index", "add-foreign-key", "add-foreign-key-not-valid",
    "add-check-constraint", "add-check-constraint-not-valid", "add-unique-constraint",
    "add-column-default-rewrite", "add-column-volatile-default", "change-column-type",
    "change-column-default-with-type", "set-not-null", "set-not-null-needs-check",
    "set-not-null-scan", "set-not-null-copy", unknownBehaviorRule]

/-- The verdict about an operation on a new table. -/
def Verdict.onNewTable (v : Verdict) (table : Value) : Verdict :=
  { v with
    status := .safe
    rule := "new-table"
    rationale := s!"{table.display} is created earlier in this migration, so it is empty and " ++
      "not yet used by running code." }

/-- Refuses a value that cannot serve as a key. -/
def Value.asKey (v : Value) : Outcome Value :=
  if v.isScalar then .ok v else .error (.shape (.notAKey v))

/-- Whether a value is among others. -/
def Value.among (v : Value) (others : List Value) : Bool :=
  others.any v.equal

/-- The verdict about an operation, given the tables that its migration has created before. -/
def Verdict.exempt (v : Verdict) (op : Operation) (created : List Value) : Verdict :=
  if op.table.among created && exemptRules.contains v.rule then v.onNewTable op.table else v

/-- The verdicts about the operations of a migration, given the tables that it has created
before. -/
def exemptRow (created : List Value) : List (Operation × Verdict) → Outcome (List Verdict)
  | [] => .ok []
  | (op, v) :: rest => do
    let table ← op.table.asKey
    match op with
    | .createTable _ _ =>
      let row ← exemptRow (table :: created) rest
      .ok (v :: row)
    | _ =>
      let row ← exemptRow created rest
      .ok (v.exempt op created :: row)

/-- The verdicts about the operations of a plan, migration by migration. -/
def exemptRows (rows : List (List (Operation × Verdict))) : Outcome (List (List Verdict)) :=
  rows.mapM (exemptRow [])

/-- The table that an operation creates. -/
def Operation.createdTable? : Operation → Option Value
  | .createTable table _ => some table
  | _ => none

/-- The tables that a list of operations creates. -/
def createdTables (ops : List Operation) : List Value :=
  ops.filterMap Operation.createdTable?

end MigrationSafety
