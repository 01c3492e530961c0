import MigrationSafety.Value.Basic

/-!
# Kinds of schema changes

The eighteen kinds of operations of a migration and the fields of each, in the order in which they
are declared. A field without a default has to be given and may not be empty.

* `Kind.name`, `Kind.ofName?`: the names of the kinds;
* `Kind.fields`: what each kind is made of;
* `flagNames`: the names that some kind has as a flag.
-/

namespace MigrationSafety.Operation

/-- The kinds of operations. -/
inductive Kind where
  | addColumn
  | addColumnWithDefault
  | addJsonColumn
  | alterColumnType
  | alterColumnDefault
  | removeColumn
  | renameColumn
  | setNotNull
  | createTable
  | renameTable
  | createIndex
  | removeIndex
  | addForeignKey
  | validateForeignKey
  | addCheckConstraint
  | validateCheckConstraint
  | addUniqueConstraint
  | executeSql
  deriving DecidableEq, Repr

/-- What a field holds: any value, the names of columns, or a flag. -/
inductive Role where
  | plain
  | columns
  | flag
  deriving DecidableEq, Repr

/-- A field of a kind of operation. -/
structure Field where
  name : String
  role : Role
  default? : Option Value

namespace Field

/-- A field that has to be given. -/
def required (name : String) : Field := ⟨name, .plain, none⟩

/-- A field that is null unless given. -/
def optional (name : String) : Field := ⟨name, .plain, some .null⟩

/-- Column names that have to be given. -/
def columns : Field := ⟨"columns", .columns, none⟩

/-- Column names that may be left out. -/
def optionalColumns : Field := ⟨"columns", .columns, some (.list [])⟩

/-- A flag with the value that it has unless given. -/
def flag (name : String) (unlessGiven : Bool) : Field := ⟨name, .flag, some (.flag unlessGiven)⟩

end Field

/-- The names of flags, in the order in which they are checked. -/
def flagNames : List String :=
  ["concurrently", "validate", "volatile_default", "unique", "force"]

namespace Kind

/-- All kinds. -/
def all : List Kind :=
  [.addColumn, .addColumnWithDefault, .addJsonColumn, .alterColumnType, .alterColumnDefault,
    .removeColumn, .renameColumn, .setNotNull, .createTable, .renameTable, .createIndex,
    .removeIndex, .addForeignKey, .validateForeignKey, .addCheckConstraint,
    .validateCheckConstraint, .addUniqueConstraint, .executeSql]

/-- The name of a kind. -/
def name : Kind → String
  | .addColumn => "AddColumn"
  | .addColumnWithDefault => "AddColumnWithDefault"
  | .addJsonColumn => "AddJsonColumn"
  | .alterColumnType => "AlterColumnType"
  | .alterColumnDefault => "AlterColumnDefault"
  | .removeColumn => "RemoveColumn"
  | .renameColumn => "RenameColumn"
  | .setNotNull => "SetNotNull"
  | .createTable => "CreateTable"
  | .renameTable => "RenameTable"
  | .createIndex => "CreateIndex"
  | .removeIndex => "RemoveIndex"
  | .addForeignKey => "AddForeignKey"
  | .validateForeignKey => "ValidateForeignKey"
  | .addCheckConstraint => "AddCheckConstraint"
  | .validateCheckConstraint => "ValidateCheckConstraint"
  | .addUniqueConstraint => "AddUniqueConstraint"
  | .executeSql => "ExecuteSql"

/-- The kind with a name. -/
def ofName? (s : String) : Option Kind :=
  all.find? (·.name == s)

/-- The fields of a kind, in the order in which they are declared. -/
def fields : Kind → List Field
  | .addColumn => [.required "table", .required "column", .required "column_type"]
  | .addColumnWithDefault =>
    [.required "table", .required "column", .required "column_type", .required "default",
      .flag "volatile_default" false]
  | .addJsonColumn => [.required "table", .required "column"]
  | .alterColumnType =>
    [.required "table", .required "column", .required "from_type", .required "to_type"]
  | .alterColumnDefault =>
    [.required "table", .required "column", .optional "default", .optional "with_type"]
  | .removeColumn => [.required "table", .columns]
  | .renameColumn => [.required "table", .required "column", .required "new_name"]
  | .setNotNull => [.required "table", .required "column", .flag "validate" true]
  | .createTable => [.required "table", .flag "force" false]
  | .renameTable => [.required "table", .required "new_name"]
  | .createIndex =>
    [.required "table", .columns, .optional "name", .flag "unique" false,
      .flag "concurrently" false]
  | .removeIndex =>
    [.required "table", .optional "name", .optionalColumns, .flag "concurrently" false]
  | .addForeignKey =>
    [.required "table", .required "to_table", .optional "column", .optional "name",
      .flag "validate" true]
  | .validateForeignKey => [.required "table", .optional "to_table", .optional "name"]
  | .addCheckConstraint =>
    [.required "table", .required "expression", .optional "name", .flag "validate" true]
  | .validateCheckConstraint => [.required "table", .required "name"]
  | .addUniqueConstraint =>
    [.required "table", .columns, .optional "name", .optional "using_index"]
  | .executeSql => [.required "sql", .optional "table"]

theorem ofName?_name (k : Kind) : ofName? k.name = some k := by
  cases k <;> decide

theorem mem_all (k : Kind) : k ∈ all := by
  cases k <;> decide

end Kind

end MigrationSafety.Operation
