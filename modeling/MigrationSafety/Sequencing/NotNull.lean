import MigrationSafety.Operation.Describe
import MigrationSafety.Sequencing.NewTable

/-!
# NOT NULL after a validated check

An engine that trusts validated checks skips reading the table when a column is declared NOT NULL
and a check has proved it free of nulls. Which columns are proved is followed through the plan.

* `NotNullState`: what is proved so far, and which checks wait for their validation;
* `refineRow`, `refineRows`: the verdicts, with every pending question answered.
-/

namespace MigrationSafety

/-- The rule whose verdicts hang on a check earlier in the plan. -/
def pendingNotNullRule : String := "set-not-null-needs-check"

/-- What is known about columns at some point of a plan. -/
structure NotNullState where
  /-- Tables and columns that a validated check has proved free of nulls. -/
  proved : List (Value × String)
  /-- Tables and names of checks that are not validated, with the column of each. -/
  pending : List ((Value × Value) × String)

namespace NotNullState

/-- Nothing is known. -/
def empty : NotNullState := ⟨[], []⟩

/-- Whether a key of the waiting checks is a table and a name. -/
def isKey (table name : Value) (entry : (Value × Value) × String) : Bool :=
  entry.1.1.equal table && entry.1.2.equal name

/-- Notes that a column is proved. -/
def prove (s : NotNullState) (table : Value) (column : String) : NotNullState :=
  { s with proved := (table, column) :: s.proved }

/-- Notes that a check waits for its validation; it replaces one of the same table and name. -/
def await (s : NotNullState) (table name : Value) (column : String) : NotNullState :=
  { s with pending := ((table, name), column) :: s.pending.filter (!isKey table name ·) }

/-- Notes that a check is validated. -/
def validate (s : NotNullState) (table name : Value) : NotNullState :=
  match s.pending.find? (isKey table name) with
  | none => s
  | some (_, column) =>
    { proved := (table, column) :: s.proved
      pending := s.pending.filter (!isKey table name ·) }

/-- Whether a column is proved. -/
def isProved (s : NotNullState) (table column : Value) : Bool :=
  s.proved.any fun (t, c) => table.equal t && column.equal (.text c)

/-- What is known after an operation. Where no check waits, the name of a validated one does not
matter. -/
def step (s : NotNullState) : Operation → Outcome NotNullState
  | .addCheckConstraint table expression name validate => do
    match ← Operation.notNullColumnOf expression with
    | none => .ok s
    | some column =>
      let table ← table.asKey
      if validate then .ok (s.prove table column)
      else
        let name ← (Operation.constraintNameOf table expression name).asKey
        .ok (s.await table name column)
  | .validateCheckConstraint table name =>
    if s.pending.isEmpty then .ok s
    else do
      let table ← table.asKey
      let name ← name.asKey
      .ok (s.validate table name)
  | _ => .ok s

end NotNullState

/-- The verdict where a validated check comes first. -/
def Verdict.afterCheck (v : Verdict) (table column : Value) : Verdict :=
  { v with
    status := .safe
    rule := "set-not-null-after-check"
    rationale := s!"A validated check ({column.display} IS NOT NULL) precedes this change, so " ++
      s!"SET NOT NULL on {table.display} skips the full table scan." }

/-- The verdict where no validated check comes first. -/
def Verdict.withoutCheck (v : Verdict) (table column : Value) : Verdict :=
  { v with
    status := .unsafeChange
    rule := "set-not-null-scan"
    rationale := s!"No validated check ({column.display} IS NOT NULL) precedes this change in " ++
      s!"the batch; full table scan expected on {table.display}." }

/-- The verdict about an operation, given what is known before it. -/
def NotNullState.answer (s : NotNullState) (v : Verdict) : Operation → Outcome Verdict
  | .setNotNull table column _ =>
    if v.rule == pendingNotNullRule then do
      let table ← table.asKey
      let column ← column.asKey
      .ok (if s.isProved table column then v.afterCheck table column
        else v.withoutCheck table column)
    else .ok v
  | _ => .ok v

/-- The verdicts about the operations of a migration, and what is known after them. -/
def refineRow (s : NotNullState) :
    List (Operation × Verdict) → Outcome (NotNullState × List Verdict)
  | [] => .ok (s, [])
  | (op, v) :: rest => do
    let v ← s.answer v op
    let s ← s.step op
    let (s, row) ← refineRow s rest
    .ok (s, v :: row)

/-- The verdicts about the operations of a plan, migration by migration. -/
def refineRows (s : NotNullState) :
    List (List (Operation × Verdict)) → Outcome (List (List Verdict))
  | [] => .ok []
  | row :: rows => do
    let (s, row) ← refineRow s row
    let rows ← refineRows s rows
    .ok (row :: rows)

end MigrationSafety
