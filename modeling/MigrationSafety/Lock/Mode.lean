/-!
# Lock modes

Postgres documents eight table lock modes, from weak to strong. The MySQL family documents no lock
modes for schema changes, so there a change either blocks writers or it does not.

* `LockMode.conflicts`: which modes exclude each other;
* `Lock`: a mode of one engine family or the other.
-/

namespace MigrationSafety

/-- The table lock modes of Postgres, weakest first. -/
inductive LockMode where
  | accessShare
  | rowShare
  | rowExclusive
  | shareUpdateExclusive
  | share
  | shareRowExclusive
  | exclusive
  | accessExclusive
  deriving DecidableEq, Repr

namespace LockMode

/-- All modes, weakest first. -/
def all : List LockMode :=
  [.accessShare, .rowShare, .rowExclusive, .shareUpdateExclusive, .share, .shareRowExclusive,
    .exclusive, .accessExclusive]

/-- The place of a mode in the order of strength, from 1. -/
def strength : LockMode → Nat
  | .accessShare => 1
  | .rowShare => 2
  | .rowExclusive => 3
  | .shareUpdateExclusive => 4
  | .share => 5
  | .shareRowExclusive => 6
  | .exclusive => 7
  | .accessExclusive => 8

/-- The name of a mode in lower case, its words joined by underscores. -/
def name : LockMode → String
  | .accessShare => "access_share"
  | .rowShare => "row_share"
  | .rowExclusive => "row_exclusive"
  | .shareUpdateExclusive => "share_update_exclusive"
  | .share => "share"
  | .shareRowExclusive => "share_row_exclusive"
  | .exclusive => "exclusive"
  | .accessExclusive => "access_exclusive"

/-- The name of a mode in capitals, its words joined by underscores. -/
def capitalName (m : LockMode) : String :=
  m.name.toUpper

/-- The name of a mode as SQL writes it. -/
def sqlName (m : LockMode) : String :=
  m.capitalName.map fun c => if c == '_' then ' ' else c

/-- The modes that a mode excludes, after the conflict table of the Postgres manual. -/
def excludes : LockMode → List LockMode
  | .accessShare => [.accessExclusive]
  | .rowShare => [.exclusive, .accessExclusive]
  | .rowExclusive => [.share, .shareRowExclusive, .exclusive, .accessExclusive]
  | .shareUpdateExclusive =>
    [.shareUpdateExclusive, .share, .shareRowExclusive, .exclusive, .accessExclusive]
  | .share =>
    [.rowExclusive, .shareUpdateExclusive, .shareRowExclusive, .exclusive, .accessExclusive]
  | .shareRowExclusive =>
    [.rowExclusive, .shareUpdateExclusive, .share, .shareRowExclusive, .exclusive,
      .accessExclusive]
  | .exclusive =>
    [.rowShare, .rowExclusive, .shareUpdateExclusive, .share, .shareRowExclusive, .exclusive,
      .accessExclusive]
  | .accessExclusive => all

/-- Whether a lock held in one mode blocks a request for the other. -/
def conflicts (a b : LockMode) : Bool :=
  a.excludes.contains b

theorem conflicts_comm (a b : LockMode) : a.conflicts b = b.conflicts a := by
  cases a <;> cases b <;> decide

end LockMode

/-- What a schema change does to concurrent writers on the MySQL family. -/
inductive Blocking where
  | blocking
  | nonBlocking
  deriving DecidableEq, Repr

/-- The name of a blocking state. -/
def Blocking.name : Blocking → String
  | .blocking => "blocking"
  | .nonBlocking => "non_blocking"

/-- A lock of one engine family or the other. -/
inductive Lock where
  | mode (m : LockMode)
  | state (b : Blocking)
  deriving DecidableEq, Repr

namespace Lock

/-- The name of a lock. -/
def name : Lock → String
  | .mode m => m.name
  | .state b => b.name

/-- A lock as messages about locks show it. -/
def shown : Lock → String
  | .mode m => s!"<LockMode.{m.capitalName}: {m.strength}>"
  | .state b => s!"<Blocking.{b.name.toUpper}: '" ++ b.name ++ "'>"

end Lock

end MigrationSafety
