import MigrationSafety.ColumnType.Change
import MigrationSafety.Version

/-!
# Version thresholds

From which version on an engine has a feature. A table of thresholds gives versions by feature and
kind of engine, and settings may override single entries of it.

* `Thresholds.builtIn`: the built-in table;
* `Thresholds.find?`: the threshold of a feature on a kind of engine;
* `Thresholds.override`: a table with some entries replaced.
-/

namespace MigrationSafety

/-- Versions by feature and kind of engine. -/
abbrev Thresholds := List (String × List (EngineKind × Version))

/-- The feature of storing a default once instead of writing it into every row. -/
def fastColumnDefault : String := "fast_column_default"

/-- The feature of trusting a validated check instead of reading the table for nulls. -/
def notNullFromCheck : String := "not_null_from_check"

namespace Thresholds

/-- The built-in table. -/
def builtIn : Thresholds :=
  [(fastColumnDefault,
      [(.postgres, { components := [11] }), (.mysql, { components := [8, 0, 12] }),
        (.mariadb, { components := [10, 3, 2] })]),
    (TypeChange.binaryCoercible, [(.postgres, { components := [9, 2] })]),
    (TypeChange.decimalPrecision, [(.postgres, { components := [9, 2] })]),
    (TypeChange.timestampConversion, [(.postgres, { components := [12] })]),
    (TypeChange.varcharExtension,
      [(.mysql, { components := [5, 7] }), (.mariadb, { components := [10, 2, 2] })]),
    (notNullFromCheck, [(.postgres, { components := [12] })])]

/-- The threshold of a feature on a kind of engine. -/
def find? (t : Thresholds) (feature : String) (kind : EngineKind) : Option Version :=
  (t.lookup feature).bind (·.lookup kind)

/-- A table with the entries of one feature replaced. -/
def overrideFeature (t : Thresholds) (feature : String)
    (entries : List (EngineKind × Version)) : Thresholds :=
  let old := (t.lookup feature).getD []
  assign feature (entries.foldl (fun old (kind, version) => assign kind version old) old) t

/-- A table with some entries replaced. -/
def override (t overrides : Thresholds) : Thresholds :=
  overrides.foldl (fun t (feature, entries) => t.overrideFeature feature entries) t

end Thresholds

end MigrationSafety
