import MigrationSafety.Text.Blank
import MigrationSafety.Text.Case

/-!
# Kinds of database engines

* `EngineKind.name`: the canonical name;
* `EngineKind.ofName?`: reads canonical names only, `EngineKind.ofAlias?` every name in use, in
  any case and with blanks around it.
-/

namespace MigrationSafety

/-- The database engines whose schema changes are judged. -/
inductive EngineKind where
  | postgres
  | mysql
  | mariadb
  deriving DecidableEq, Repr

namespace EngineKind

/-- All kinds. -/
def all : List EngineKind := [.postgres, .mysql, .mariadb]

/-- The canonical name. -/
def name : EngineKind → String
  | .postgres => "postgres"
  | .mysql => "mysql"
  | .mariadb => "mariadb"

/-- Every name in use. -/
def aliases : List (String × EngineKind) :=
  [("postgres", .postgres), ("postgresql", .postgres), ("pg", .postgres), ("mysql", .mysql),
    ("mariadb", .mariadb)]

/-- The kind with a canonical name. -/
def ofName? (s : String) : Option EngineKind :=
  all.find? (·.name == s)

/-- The kind with a name, ignoring case and blanks around it. -/
def ofAlias? (s : String) : Option EngineKind :=
  aliases.lookup (Text.lower (Text.trim s))

theorem ofName?_name (k : EngineKind) : ofName? k.name = some k := by
  cases k <;> decide

theorem mem_all (k : EngineKind) : k ∈ all := by
  cases k <;> decide

end EngineKind

end MigrationSafety
