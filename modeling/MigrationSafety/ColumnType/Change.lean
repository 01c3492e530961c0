import MigrationSafety.ColumnType.Parser
import MigrationSafety.Engine.Basic

/-!
# Changes of type that keep the table

Most changes of a column's type make the engine write the whole table anew. The exceptions are
listed here, each with the feature that an engine needs for it.

* `Requirement`: what a change of type needs in order to keep the table;
* `TypeChange.onPostgres`, `TypeChange.onMysql`: the exceptions of each engine family;
* `TypeChange.requirement`: the requirement of a change on an engine.
-/

namespace MigrationSafety

/-- What a change needs in order to keep the table: nothing helps, nothing is needed, or an engine
with a feature. -/
inductive Requirement where
  | never
  | always
  | feature (name : String)
  deriving DecidableEq, Repr

namespace TypeChange

/-- The feature of relabelling values whose stored form is the same in both types. -/
def binaryCoercible : String := "binary_coercible_change"

/-- The feature of raising the precision of a decimal in place. -/
def decimalPrecision : String := "decimal_precision_increase"

/-- The feature of reading timestamps as if they carried a time zone, and back. -/
def timestampConversion : String := "timestamptz_conversion"

/-- The feature of lengthening a varchar in place. -/
def varcharExtension : String := "inplace_varchar_extension"

/-- Types whose one number is a precision of fractions of a second. -/
def precisionTypes : List String := ["timestamp", "timestamptz", "time", "timetz", "interval"]

/-- The most characters of four bytes each whose length fits into one byte. A longer column has a
length of two bytes, and crossing the limit copies the column. -/
def shortLength : Nat := 255 / 4

/-- Whether the new limit is no lower than the old one; no limit is above every limit. -/
def lengthKept (old new : ColumnType) : Bool :=
  match new.length, old.length with
  | none, _ => true
  | some _, none => false
  | some n, some o => o ≤ n

/-- A requirement that holds only under a condition. -/
def when (condition : Bool) (r : Requirement) : Requirement :=
  if condition then r else .never

/-- Whether a session in a time zone shows the same times as one in UTC. The names are ASCII, and
no other letter has a letter of theirs as its capital form. -/
def isUtc (zone : String) : Bool :=
  ["UTC", "ETC/UTC", "GMT"].contains (zone.map Char.toUpper)

/-- The exceptions of Postgres. -/
def onPostgres (timeZone : String) (old new : ColumnType) : Requirement :=
  if old == new then .always
  else if old.name == "varchar" then
    if new.name == "text" then .feature binaryCoercible
    else when (new.name == "varchar" && lengthKept old new) (.feature binaryCoercible)
  else if old.name == "text" && new.name == "varchar" && new.length.isNone then
    .feature binaryCoercible
  else if old.name == "decimal" && new.name == "decimal" then
    when (new.length.isNone || (new.scale == old.scale && lengthKept old new))
      (.feature decimalPrecision)
  else if old.name == "cidr" && new.name == "inet" then .feature binaryCoercible
  else if old.name == new.name && precisionTypes.contains old.name then
    when (lengthKept old new) (.feature binaryCoercible)
  else if (old.name == "timestamp" && new.name == "timestamptz") ||
      (old.name == "timestamptz" && new.name == "timestamp") then
    when (isUtc timeZone && lengthKept old new) (.feature timestampConversion)
  else .never

/-- The exceptions of the MySQL family. -/
def onMysql (old new : ColumnType) : Requirement :=
  if old == new then .always
  else if old.name == "varchar" && new.name == "varchar" then
    match old.length, new.length with
    | some o, some n =>
      when (o ≤ n && (o ≤ shortLength) == (n ≤ shortLength)) (.feature varcharExtension)
    | _, _ => .never
  else .never

/-- The requirement of a change between two types on an engine. -/
def requirement (engine : Engine) (old new : ColumnType) : Requirement :=
  if engine.isPostgres then onPostgres engine.timeZone old new else onMysql old new

/-- The requirement of a change between two written types on an engine. -/
def requirementOf (engine : Engine) (old new : String) : Except ValueFault Requirement := do
  let old ← ColumnType.parse old
  let new ← ColumnType.parse new
  .ok (requirement engine old new)

end TypeChange

end MigrationSafety
