import MigrationSafety.Operation.Create

/-!
# Migrations and plans

A migration is a list of operations that are carried out in one transaction unless it says
otherwise; a plan is the list of migrations of a deployment, in the order in which they run.

* `Migration.ofValue`, `Plan.ofValue`: read the written form;
* `Migration.record`, `Plan.record`: the written form.
-/

namespace MigrationSafety

/-- Operations that are carried out together. -/
structure Migration where
  name : Value
  operations : List Operation
  /-- Whether the operations run outside a transaction. -/
  noTransaction : Bool
  /-- Whether the operations run without the lock that keeps migrations apart. -/
  noMigrationLock : Bool
  /-- Whether its author vouches for its safety. -/
  assured : Bool

/-- The migrations of a deployment, in the order in which they run. -/
structure Plan where
  migrations : List Migration

namespace Migration

/-- The names of the flags, in the order in which they are checked. -/
def flagNames : List String :=
  ["disable_ddl_transaction", "disable_migration_lock", "safety_assured"]

/-- Checks a flag. -/
def checkFlag (migration : Value) (name : String) : Value → Except OperationFault Bool
  | .flag b => .ok b
  | v => .error (.migrationFlag migration name v)

/-- Puts a migration together; `flag` gives the value of each flag. -/
def assemble (name : Value) (operations : List Operation) (flag : String → Value) :
    Except OperationFault Migration := do
  let noTransaction ← checkFlag name "disable_ddl_transaction" (flag "disable_ddl_transaction")
  let noMigrationLock ← checkFlag name "disable_migration_lock" (flag "disable_migration_lock")
  let assured ← checkFlag name "safety_assured" (flag "safety_assured")
  .ok ⟨name, operations, noTransaction, noMigrationLock, assured⟩

/-- The flags that a list of settings gives; a flag that is not given is off. -/
def flagsOf (settings : List (String × Value)) (name : String) : Value :=
  (settings.lookup name).getD (.flag false)

end Migration

/-- The items that a value holds: those of a list, the characters of a text, or the keys of a
record. -/
def Value.items : Value → Except ShapeFault (List Value)
  | .list items => .ok items
  | .text s => .ok (s.toList.map fun c => .text (String.ofList [c]))
  | .record fields => .ok (fields.map fun (k, _) => .text k)
  | v => .error (.notASequence v)

namespace Migration

/-- Reads a migration. -/
def ofValue (v : Value) : Outcome Migration := do
  match v with
  | .record fields =>
    match fields.lookup "name" with
    | none => .error (.shape (.noField "name"))
    | some name =>
      let items ← (((fields.lookup "operations").getD (.list [])).items).mapError .shape
      let operations ← items.mapM Operation.ofValue
      (assemble name operations (flagsOf fields)).mapError .operation
  | v => .error (.shape (.notAContainer v))

/-- A migration as plans write it. -/
def record (m : Migration) : Value :=
  .record
    [("name", m.name), ("disable_ddl_transaction", .flag m.noTransaction),
      ("disable_migration_lock", .flag m.noMigrationLock), ("safety_assured", .flag m.assured),
      ("operations", .list (m.operations.map Operation.record))]

/-- Equality of migrations. -/
def equal (a b : Migration) : Bool :=
  a.name.equal b.name && a.operations.length == b.operations.length &&
    (a.operations.zip b.operations).all (fun (x, y) => x.equal y) &&
    a.noTransaction == b.noTransaction && a.noMigrationLock == b.noMigrationLock &&
    a.assured == b.assured

end Migration

namespace Plan

/-- Reads a plan. -/
def ofValue (v : Value) : Outcome Plan := do
  match v with
  | .record fields =>
    let items ← (((fields.lookup "migrations").getD (.list [])).items).mapError .shape
    let migrations ← items.mapM Migration.ofValue
    .ok ⟨migrations⟩
  | v => .error (.shape (.noMember v "get"))

/-- A plan in its written form. -/
def record (p : Plan) : Value :=
  .record [("migrations", .list (p.migrations.map Migration.record))]

/-- Equality of plans. -/
def equal (a b : Plan) : Bool :=
  a.migrations.length == b.migrations.length &&
    (a.migrations.zip b.migrations).all fun (x, y) => x.equal y

end Plan

end MigrationSafety
