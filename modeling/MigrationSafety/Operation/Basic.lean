import MigrationSafety.Operation.Kind

/-!
# Operations

One change to the schema of a database. A field that is meant to be a text holds a `Value`, because
plans are not held to it; the names of columns are a list, and flags are flags.

* `Operation.kind`, `Operation.values`: an operation as its kind and the values of its fields;
* `Operation.ofValues?`: the way back;
* `Operation.record`: an operation as it is written into plans and reports.
-/

namespace MigrationSafety

/-- One change to a schema. -/
inductive Operation where
  /-- A new column that may be null and has no default. -/
  | addColumn (table column columnType : Value)
  /-- A new column whose default fills the rows that exist. -/
  | addColumnWithDefault (table column columnType default : Value) (volatileDefault : Bool)
  /-- A new column of the plain JSON type. -/
  | addJsonColumn (table column : Value)
  | alterColumnType (table column fromType toType : Value)
  /-- Sets a default, or drops it if it is null. A type is there if the same statement redefines
  the type. -/
  | alterColumnDefault (table column default withType : Value)
  | removeColumn (table : Value) (columns : List Value)
  | renameColumn (table column newName : Value)
  /-- Forbids null in a column. Without validation only new rows are checked at first. -/
  | setNotNull (table column : Value) (validate : Bool)
  /-- A new table; `force` drops a table of the same name first. -/
  | createTable (table : Value) (force : Bool)
  | renameTable (table newName : Value)
  | createIndex (table : Value) (columns : List Value) (name : Value) (unique concurrently : Bool)
  /-- Drops the index with a name, or the one on some columns. -/
  | removeIndex (table name : Value) (columns : List Value) (concurrently : Bool)
  | addForeignKey (table toTable column name : Value) (validate : Bool)
  /-- Checks the rows that existed when a foreign key was added without validation. -/
  | validateForeignKey (table toTable name : Value)
  | addCheckConstraint (table expression name : Value) (validate : Bool)
  | validateCheckConstraint (table name : Value)
  /-- A new unique constraint, possibly on an index that exists. -/
  | addUniqueConstraint (table : Value) (columns : List Value) (name usingIndex : Value)
  | executeSql (sql table : Value)
  deriving Inhabited

namespace Operation

/-- The kind of an operation. -/
def kind : Operation → Kind
  | addColumn _ _ _ => .addColumn
  | addColumnWithDefault _ _ _ _ _ => .addColumnWithDefault
  | addJsonColumn _ _ => .addJsonColumn
  | alterColumnType _ _ _ _ => .alterColumnType
  | alterColumnDefault _ _ _ _ => .alterColumnDefault
  | removeColumn _ _ => .removeColumn
  | renameColumn _ _ _ => .renameColumn
  | setNotNull _ _ _ => .setNotNull
  | createTable _ _ => .createTable
  | renameTable _ _ => .renameTable
  | createIndex _ _ _ _ _ => .createIndex
  | removeIndex _ _ _ _ => .removeIndex
  | addForeignKey _ _ _ _ _ => .addForeignKey
  | validateForeignKey _ _ _ => .validateForeignKey
  | addCheckConstraint _ _ _ _ => .addCheckConstraint
  | validateCheckConstraint _ _ => .validateCheckConstraint
  | addUniqueConstraint _ _ _ _ => .addUniqueConstraint
  | executeSql _ _ => .executeSql

/-- The table that an operation changes; for a raw statement the one it is said to change. -/
def table : Operation → Value
  | addColumn t _ _ | addColumnWithDefault t _ _ _ _ | addJsonColumn t _ | alterColumnType t _ _ _
  | alterColumnDefault t _ _ _ | removeColumn t _ | renameColumn t _ _ | setNotNull t _ _
  | createTable t _ | renameTable t _ | createIndex t _ _ _ _ | removeIndex t _ _ _
  | addForeignKey t _ _ _ _ | validateForeignKey t _ _ | addCheckConstraint t _ _ _
  | validateCheckConstraint t _ | addUniqueConstraint t _ _ _ | executeSql _ t => t

/-- Whether an operation builds or drops an index without locking out writers. -/
def concurrently : Operation → Bool
  | createIndex _ _ _ _ c | removeIndex _ _ _ c => c
  | _ => false

/-- Whether the statement that changes a default redefines the type of the column too. -/
def redefinesType : Operation → Bool
  | alterColumnDefault _ _ _ withType => withType.truthy
  | _ => false

/-- The values of the fields of an operation, in the order of its kind. -/
def values : Operation → List Value
  | addColumn table column columnType => [table, column, columnType]
  | addColumnWithDefault table column columnType default volatileDefault =>
    [table, column, columnType, default, .flag volatileDefault]
  | addJsonColumn table column => [table, column]
  | alterColumnType table column fromType toType => [table, column, fromType, toType]
  | alterColumnDefault table column default withType => [table, column, default, withType]
  | removeColumn table columns => [table, .list columns]
  | renameColumn table column newName => [table, column, newName]
  | setNotNull table column validate => [table, column, .flag validate]
  | createTable table force => [table, .flag force]
  | renameTable table newName => [table, newName]
  | createIndex table columns name unique concurrently =>
    [table, .list columns, name, .flag unique, .flag concurrently]
  | removeIndex table name columns concurrently =>
    [table, name, .list columns, .flag concurrently]
  | addForeignKey table toTable column name validate =>
    [table, toTable, column, name, .flag validate]
  | validateForeignKey table toTable name => [table, toTable, name]
  | addCheckConstraint table expression name validate =>
    [table, expression, name, .flag validate]
  | validateCheckConstraint table name => [table, name]
  | addUniqueConstraint table columns name usingIndex => [table, .list columns, name, usingIndex]
  | executeSql sql table => [sql, table]

/-- The operation of a kind whose fields have the given values. -/
def ofValues? : Kind → List Value → Option Operation
  | .addColumn, [table, column, columnType] => some (addColumn table column columnType)
  | .addColumnWithDefault, [table, column, columnType, default, .flag volatileDefault] =>
    some (addColumnWithDefault table column columnType default volatileDefault)
  | .addJsonColumn, [table, column] => some (addJsonColumn table column)
  | .alterColumnType, [table, column, fromType, toType] =>
    some (alterColumnType table column fromType toType)
  | .alterColumnDefault, [table, column, default, withType] =>
    some (alterColumnDefault table column default withType)
  | .removeColumn, [table, .list columns] => some (removeColumn table columns)
  | .renameColumn, [table, column, newName] => some (renameColumn table column newName)
  | .setNotNull, [table, column, .flag validate] => some (setNotNull table column validate)
  | .createTable, [table, .flag force] => some (createTable table force)
  | .renameTable, [table, newName] => some (renameTable table newName)
  | .createIndex, [table, .list columns, name, .flag unique, .flag concurrently] =>
    some (createIndex table columns name unique concurrently)
  | .removeIndex, [table, name, .list columns, .flag concurrently] =>
    some (removeIndex table name columns concurrently)
  | .addForeignKey, [table, toTable, column, name, .flag validate] =>
    some (addForeignKey table toTable column name validate)
  | .validateForeignKey, [table, toTable, name] => some (validateForeignKey table toTable name)
  | .addCheckConstraint, [table, expression, name, .flag validate] =>
    some (addCheckConstraint table expression name validate)
  | .validateCheckConstraint, [table, name] => some (validateCheckConstraint table name)
  | .addUniqueConstraint, [table, .list columns, name, usingIndex] =>
    some (addUniqueConstraint table columns name usingIndex)
  | .executeSql, [sql, table] => some (executeSql sql table)
  | _, _ => none

theorem ofValues?_values (op : Operation) : ofValues? op.kind op.values = some op := by
  cases op <;> rfl

theorem length_values (op : Operation) : op.values.length = op.kind.fields.length := by
  cases op <;> rfl

/-- The fields of an operation with their values. -/
def assignments (op : Operation) : List (Field × Value) :=
  op.kind.fields.zip op.values

theorem map_fst_assignments (op : Operation) : op.assignments.map Prod.fst = op.kind.fields :=
  List.map_fst_zip (Nat.le_of_eq op.length_values.symm)

/-- An operation as it is written into plans and reports. -/
def record (op : Operation) : Value :=
  .record (("type", .text op.kind.name) :: op.assignments.map fun (f, v) => (f.name, v))

/-- Equality of operations: one kind, and equal values. -/
def equal (a b : Operation) : Bool :=
  a.kind == b.kind && Value.equalItems a.values b.values

end Operation

end MigrationSafety
