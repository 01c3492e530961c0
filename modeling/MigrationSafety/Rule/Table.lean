import MigrationSafety.Rule.Basic

/-!
# The table of rules

The rules in the order in which they are tried. For every kind of operation the last of its rules
has no condition, so each operation gets a verdict.

* `Rule.table`: all rules;
* `Rule.forKind`: the rules about one kind.
-/

namespace MigrationSafety.Rule

open Operation (Kind)

/-- Why plain JSON columns break queries. -/
def jsonRationale : List Piece :=
  ["Postgres has no equality operator for json, so existing SELECT DISTINCT and UNION queries on ",
    .field "table", " break once ", .field "column", " exists. Use jsonb."]

/-- What is said about a validation. -/
def validationRationale : List Piece :=
  ["Validation takes a SHARE UPDATE EXCLUSIVE lock on ", .field "table",
    ", which allows reads and writes."]

/-- The rules about columns. -/
def columnRules : List Rule :=
  [{ id := "add-json-column"
     kinds := [.addColumn, .addColumnWithDefault]
     status := .unsafeChange
     rationale := jsonRationale
     remedy := .useJsonb
     postgresOnly := true
     condition := .plainJson },
   { id := "add-column"
     kinds := [.addColumn]
     status := .safe
     rationale := ["Adding nullable column ", .field "column",
       " without a default only updates the catalog."] },
   { id := "add-column-volatile-default"
     kinds := [.addColumnWithDefault]
     status := .unsafeChange
     rationale := ["The default ", .field "default", " is volatile, so every existing row of ",
       .field "table", " is rewritten while writes are blocked. Add ", .field "column",
       " without a default, set the default separately and backfill in batches."]
     remedy := .setDefaultSeparately
     condition := .defaultVaries },
   { id := "add-column-default-rewrite"
     kinds := [.addColumnWithDefault]
     status := .unsafeChange
     rationale := ["On ", .engine, ", adding ", .field "column",
       " with a default rewrites every row of ", .field "table",
       " while writes are blocked. Add the column without a default, set the default separately ",
       "and backfill in batches."]
     remedy := .setDefaultSeparately
     condition := .defaultRewrites },
   { id := "add-column-default"
     kinds := [.addColumnWithDefault]
     status := .safe
     rationale := ["On ", .engine, ", a non-volatile default for ", .field "column",
       " is stored in the catalog without rewriting ", .field "table", "."] },
   { id := "add-json-column"
     kinds := [.addJsonColumn]
     status := .unsafeChange
     rationale := jsonRationale
     remedy := .useJsonb
     postgresOnly := true },
   { id := "add-json-column"
     kinds := [.addJsonColumn]
     status := .safe
     rationale := [.engine, " has a single JSON type; adding ", .field "column",
       " is an online change."] },
   { id := "change-column-type-safe"
     kinds := [.alterColumnType]
     status := .safe
     rationale := ["Changing ", .field "column", " from ", .field "from_type", " to ",
       .field "to_type", " does not rewrite ", .field "table", " or its indexes on ", .engine,
       "."]
     condition := .typeKeepsTable },
   { id := "change-column-type"
     kinds := [.alterColumnType]
     status := .unsafeChange
     rationale := ["Changing ", .field "column", " from ", .field "from_type", " to ",
       .field "to_type", " rewrites ", .field "table",
       " while blocking reads and writes. Add a new column, write to both, backfill, move reads ",
       "over, then drop the old column."]
     remedy := .splitIntoPhases },
   { id := "change-column-default-with-type"
     kinds := [.alterColumnDefault]
     status := .unsafeChange
     rationale := ["The default change on ", .field "column",
       " is bundled with a redefinition as ", .field "with_type", ", which can rewrite ",
       .field "table", ". Isolate the default change in its own statement."]
     remedy := .splitIntoPhases
     condition := .redefinesType },
   { id := "change-column-default"
     kinds := [.alterColumnDefault]
     status := .safe
     rationale := ["Changing the default of ", .field "column",
       " only affects future inserts."] },
   { id := "remove-column"
     kinds := [.removeColumn]
     status := .conditionallySafe
     rationale := ["Running application code may still reference ", .field "columns", " on ",
       .field "table", ". Deploy code that ignores the column(s) first; that deployment order is ",
       "outside the migration and cannot be verified here."]
     remedy := .applicationCodeFirst },
   { id := "rename-column"
     kinds := [.renameColumn]
     status := .conditionallySafe
     rationale := ["Running application code still uses ", .field "table", ".", .field "column",
       ". Renaming to ", .field "new_name",
       " needs coordinated code changes (new column, dual writes or a view) deployed outside the ",
       "migration; this cannot be verified here."]
     remedy := .applicationCodeFirst },
   { id := "set-not-null"
     kinds := [.setNotNull]
     status := .conditionallySafe
     rationale := ["Constraint-first: ", .field "column",
       " IS NOT NULL is added as an unvalidated check and must be validated in a separate ",
       "migration before NOT NULL is set."]
     remedy := .validateSeparately
     condition := .notValidated },
   { id := "set-not-null-needs-check"
     kinds := [.setNotNull]
     status := .conditionallySafe
     rationale := ["On ", .engine, ", SET NOT NULL on ", .field "column",
       " skips the full scan of ", .field "table",
       " only if a validated check constraint (", .field "column",
       " IS NOT NULL) already exists."]
     remedy := .validateSeparately
     postgresOnly := true
     condition := .checkTrusted },
   { id := "set-not-null-scan"
     kinds := [.setNotNull]
     status := .unsafeChange
     rationale := ["Setting NOT NULL on ", .field "column", " scans ", .field "table",
       " under an ACCESS EXCLUSIVE lock. Add an unvalidated ", .field "column",
       " IS NOT NULL check and validate it separately."]
     remedy := .validateSeparately
     postgresOnly := true },
   { id := "set-not-null-copy"
     kinds := [.setNotNull]
     status := .unsafeChange
     rationale := ["Setting NOT NULL on ", .field "column", " copies ", .field "table",
       " while blocking writes. Backfill first and apply the change with an online schema change ",
       "tool."]
     remedy := .splitIntoPhases }]

/-- The rules about tables. -/
def tableRules : List Rule :=
  [{ id := "create-table-force"
     kinds := [.createTable]
     status := .unsafeChange
     rationale := ["force drops the existing ", .field "table",
       " and its data before recreating it."]
     remedy := .splitIntoPhases
     condition := .dropsTable },
   { id := "create-table"
     kinds := [.createTable]
     status := .safe
     rationale := ["Creating ", .field "table", " does not touch existing data."] },
   { id := "rename-table"
     kinds := [.renameTable]
     status := .conditionallySafe
     rationale := ["Running application code still queries ", .field "table",
       ". Renaming it to ", .field "new_name",
       " needs code that handles both names deployed first; this ordering is outside the ",
       "migration and cannot be verified here."]
     remedy := .applicationCodeFirst }]

/-- The rules about indexes. -/
def indexRules : List Rule :=
  [{ id := "create-index-concurrently"
     kinds := [.createIndex]
     status := .safe
     rationale := ["CONCURRENTLY builds the index on ", .field "table",
       " without blocking writes."]
     postgresOnly := true
     condition := .concurrentlyOutsideTransaction },
   { id := "concurrent-index-in-transaction"
     kinds := [.createIndex, .removeIndex]
     status := .unsafeChange
     rationale := ["CONCURRENTLY requires disabling the DDL transaction."]
     remedy := .useConcurrentIndex
     postgresOnly := true
     condition := .concurrentlyInTransaction },
   { id := "create-index"
     kinds := [.createIndex]
     status := .unsafeChange
     rationale := ["Building an index takes a SHARE lock on ", .field "table",
       " and blocks writes until it finishes. Create it CONCURRENTLY in its own migration."]
     remedy := .useConcurrentIndex
     postgresOnly := true },
   { id := "create-index"
     kinds := [.createIndex]
     status := .safe
     rationale := [.engine, " builds the index on ", .field "table",
       " online without blocking writes."] },
   { id := "remove-index-concurrently"
     kinds := [.removeIndex]
     status := .safe
     rationale := ["CONCURRENTLY drops the index without blocking queries on ", .field "table",
       "."]
     postgresOnly := true
     condition := .concurrently },
   { id := "remove-index"
     kinds := [.removeIndex]
     status := .unsafeChange
     rationale := ["Dropping an index takes an ACCESS EXCLUSIVE lock on ", .field "table",
       ", which waits behind and then blocks all queries. Drop it CONCURRENTLY."]
     remedy := .useConcurrentIndex
     postgresOnly := true },
   { id := "remove-index"
     kinds := [.removeIndex]
     status := .safe
     rationale := [.engine, " drops the index from ", .field "table",
       " as a metadata change."] }]

/-- The rules about constraints. -/
def constraintRules : List Rule :=
  [{ id := "add-foreign-key-not-valid"
     kinds := [.addForeignKey]
     status := .conditionallySafe
     rationale := ["Without validation the foreign key from ", .field "table", " to ",
       .field "to_table", " only checks new writes. Validate it in a later migration."]
     remedy := .splitIntoPhases
     condition := .notValidated },
   { id := "add-foreign-key"
     kinds := [.addForeignKey]
     status := .unsafeChange
     rationale := ["Adding a validated foreign key blocks writes on both ", .field "table",
       " and ", .field "to_table",
       " while existing rows are checked. Add it without validation and validate it in a ",
       "separate migration."]
     remedy := .splitIntoPhases },
   { id := "validate-foreign-key"
     kinds := [.validateForeignKey]
     status := .safe
     rationale := validationRationale },
   { id := "add-check-constraint-not-valid"
     kinds := [.addCheckConstraint]
     status := .conditionallySafe
     rationale := ["Without validation the check on ", .field "table",
       " only applies to new writes. Validate it in a later migration."]
     remedy := .validateSeparately
     condition := .notValidated },
   { id := "add-check-constraint"
     kinds := [.addCheckConstraint]
     status := .unsafeChange
     rationale := ["Adding a validated check constraint scans ", .field "table",
       " while blocking reads and writes. Add it without validation and validate it separately."]
     remedy := .validateSeparately },
   { id := "validate-check-constraint"
     kinds := [.validateCheckConstraint]
     status := .safe
     rationale := validationRationale },
   { id := "add-unique-constraint-using-index"
     kinds := [.addUniqueConstraint]
     status := .safe
     rationale := ["The constraint reuses the existing index ", .field "using_index", " on ",
       .field "table", "."]
     postgresOnly := true
     condition := .onExistingIndex },
   { id := "add-unique-constraint"
     kinds := [.addUniqueConstraint]
     status := .unsafeChange
     rationale := ["Adding a unique constraint builds its index on ", .field "table",
       " while blocking reads and writes. Create a unique index CONCURRENTLY, then add the ",
       "constraint USING INDEX."]
     remedy := .useConcurrentIndex
     postgresOnly := true },
   { id := "add-unique-constraint"
     kinds := [.addUniqueConstraint]
     status := .safe
     rationale := [.engine, " builds the unique index on ", .field "table", " online."] }]

/-- The rule about raw statements. -/
def statementRules : List Rule :=
  [{ id := "execute-sql"
     kinds := [.executeSql]
     status := .conditionallySafe
     rationale := ["Raw SQL cannot be analyzed; review its locking behavior manually."] }]

/-- All rules, in the order in which they are tried. -/
def table : List Rule :=
  columnRules ++ tableRules ++ indexRules ++ constraintRules ++ statementRules

/-- The rules of a list that are about a kind. -/
def forKind (rules : List Rule) (kind : Kind) : List Rule :=
  rules.filter (·.kinds.contains kind)

/-- Every kind has a rule without a condition for every engine. -/
theorem exists_catch_all (kind : Kind) :
    (forKind table kind).any fun r => !r.postgresOnly && r.condition == .always := by
  cases kind <;> decide

end MigrationSafety.Rule
