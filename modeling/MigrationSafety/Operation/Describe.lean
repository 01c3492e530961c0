import MigrationSafety.Digest.Sha256
import MigrationSafety.Operation.Create
import MigrationSafety.Operation.NotNull
import MigrationSafety.Operation.Volatile

/-!
# What operations are called and how they are described

* `Operation.indexName`, `Operation.constraintName`: the names of what an operation makes or
  drops, given or derived;
* `Operation.describe`: an operation in a few words;
* `Operation.displayFields`: the fields of an operation as parts of a sentence.

Column names that are no texts cannot be joined, so all but the constraint names may fail.
-/

namespace MigrationSafety.Operation

/-- Column names joined by a separator. -/
def joinNames (separator : String) (names : List Value) : Outcome String :=
  match names.find? (!·.isText) with
  | some v => .error (.shape (.notText v))
  | none => .ok (separator.intercalate (names.map Value.display))

/-- The name of an index: the given one, or one made of the table and its columns. -/
def indexNameOf (table name : Value) (columns : List Value) : Outcome Value :=
  if name.truthy then .ok name
  else do
    let columns ← joinNames "_and_" columns
    .ok (.text s!"index_{table.display}_on_{columns}")

/-- The name of the index that an operation builds or drops. -/
def indexName? : Operation → Option (Outcome Value)
  | createIndex table columns name _ _ | removeIndex table name columns _ =>
    some (indexNameOf table name columns)
  | _ => none

/-- The name of a check constraint that was given none: the same for the same table and
expression. -/
def defaultCheckName (table expression : String) : String :=
  "chk_" ++ String.ofList ((Sha256.hexDigest s!"{table}_{expression}").take 10)

/-- The name of a check constraint: the given one, or the default. -/
def constraintNameOf (table expression name : Value) : Value :=
  if name.truthy then name else .text (defaultCheckName table.display expression.display)

/-- The longest statement that a description shows in full. -/
def statementLimit : Nat := 40

/-- A statement on one line, cut if it is too long. -/
def shortStatement (sql : String) : String :=
  let cs := (Text.squeeze sql).toList
  if statementLimit < cs.length then String.ofList (cs.take (statementLimit - 3)) ++ "..."
  else String.ofList cs

/-- What descriptions say behind a constraint that is not validated. -/
def validityNote (validate : Bool) : String :=
  if validate then "" else " (not valid)"

/-- An operation in a few words. -/
def describe : Operation → Outcome String
  | addColumn table column columnType =>
    .ok s!"Add column {table.display}.{column.display} ({columnType.display})"
  | addColumnWithDefault table column columnType default _ =>
    .ok (s!"Add column {table.display}.{column.display} ({columnType.display}) " ++
      s!"default {default.display}")
  | addJsonColumn table column => .ok s!"Add json column {table.display}.{column.display}"
  | alterColumnType table column fromType toType =>
    .ok (s!"Change type of {table.display}.{column.display} from {fromType.display} " ++
      s!"to {toType.display}")
  | alterColumnDefault table column default _ =>
    let action :=
      match default with
      | .null => "Drop default"
      | v => s!"Set default {v.display}"
    .ok s!"{action} on {table.display}.{column.display}"
  | removeColumn table columns => do
    let columns ← joinNames ", " columns
    .ok s!"Remove column(s) {columns} from {table.display}"
  | renameColumn table column newName =>
    .ok s!"Rename column {table.display}.{column.display} to {newName.display}"
  | setNotNull table column _ => .ok s!"Set NOT NULL on {table.display}.{column.display}"
  | createTable table force =>
    .ok (s!"Create table {table.display}" ++ if force then " (force)" else "")
  | renameTable table newName => .ok s!"Rename table {table.display} to {newName.display}"
  | createIndex table columns name unique concurrently => do
    let index ← indexNameOf table name columns
    let columns ← joinNames ", " columns
    let what := if unique then "unique index" else "index"
    let how := if concurrently then " concurrently" else ""
    .ok s!"Create {what}{how} {index.display} on {table.display}({columns})"
  | removeIndex table name columns concurrently => do
    let index ← indexNameOf table name columns
    let how := if concurrently then " concurrently" else ""
    .ok s!"Remove index{how} {index.display} from {table.display}"
  | addForeignKey table toTable _ _ validate =>
    .ok (s!"Add foreign key {table.display} -> {toTable.display}" ++ validityNote validate)
  | validateForeignKey table toTable name =>
    let target := if name.truthy then name else toTable
    .ok s!"Validate foreign key {target.display} on {table.display}"
  | addCheckConstraint table expression name validate =>
    let constraint := constraintNameOf table expression name
    .ok (s!"Add check constraint {constraint.display} on {table.display}" ++ validityNote validate)
  | validateCheckConstraint table name =>
    .ok s!"Validate check constraint {name.display} on {table.display}"
  | addUniqueConstraint table columns _ usingIndex => do
    let columns ← joinNames ", " columns
    let backing := if usingIndex.truthy then s!" using index {usingIndex.display}" else ""
    .ok (s!"Add unique constraint on {table.display}({columns})" ++ backing)
  | executeSql sql _ =>
    match sql with
    | .text s => .ok s!"Execute SQL: {shortStatement s}"
    | v => .error (.shape (.noMember v "split"))

/-- The value of a field as part of a sentence: names joined by commas, and nothing for null. -/
def displayField (f : Field) (v : Value) : Outcome String :=
  match f.role, v with
  | .columns, .list names => joinNames ", " names
  | _, .null => .ok ""
  | _, v => .ok v.display

/-- The fields of an operation as parts of a sentence. -/
def displayFields (op : Operation) : Outcome (List (String × String)) :=
  op.assignments.mapM fun (f, v) => do
    let text ← displayField f v
    .ok (f.name, text)

/-- Whether the default of a new column differs from row to row: by declaration, or because it
calls a volatile function. -/
def hasVolatileDefault (default : Value) (volatileDefault : Bool) : Outcome Bool :=
  if volatileDefault then .ok true else isVolatileValue default

end MigrationSafety.Operation
