import MigrationSafety.Lock.Mode
import MigrationSafety.Value.Basic

/-!
# Verdicts

What is said about one operation: whether it is safe, why, what would make it safe, and the lock
it takes.

* `Status`: how safe, in order;
* `Remedy`: what to do instead;
* `Verdict.record`: a verdict as reports write it.
-/

namespace MigrationSafety

/-- How safe an operation is. -/
inductive Status where
  | safe
  | conditionallySafe
  | unsafeChange
  deriving DecidableEq, Repr

namespace Status

/-- All statuses, safest first. -/
def all : List Status := [.safe, .conditionallySafe, .unsafeChange]

/-- The place of a status in the order of danger. -/
def rank : Status → Nat
  | .safe => 0
  | .conditionallySafe => 1
  | .unsafeChange => 2

/-- The name of a status. -/
def name : Status → String
  | .safe => "safe"
  | .conditionallySafe => "conditionally_safe"
  | .unsafeChange => "unsafe"

/-- The status with a name. -/
def ofName? (s : String) : Option Status :=
  all.find? (·.name == s)

/-- The more dangerous of two statuses. -/
def worse (a b : Status) : Status :=
  if a.rank < b.rank then b else a

theorem ofName?_name (s : Status) : ofName? s.name = some s := by
  cases s <;> decide

end Status

/-- What to do instead of an unsafe change. -/
inductive Remedy where
  | splitIntoPhases
  | validateSeparately
  | useConcurrentIndex
  | setDefaultSeparately
  | applicationCodeFirst
  | useJsonb
  | nothing
  deriving DecidableEq, Repr

namespace Remedy

/-- All remedies. -/
def all : List Remedy :=
  [.splitIntoPhases, .validateSeparately, .useConcurrentIndex, .setDefaultSeparately,
    .applicationCodeFirst, .useJsonb, .nothing]

/-- The name of a remedy. -/
def name : Remedy → String
  | .splitIntoPhases => "split_into_phases"
  | .validateSeparately => "disable_validation_then_validate_separately"
  | .useConcurrentIndex => "use_concurrent_index"
  | .setDefaultSeparately => "add_then_set_default_separately"
  | .applicationCodeFirst => "application_code_first"
  | .useJsonb => "use_jsonb"
  | .nothing => "none"

/-- The remedy with a name. -/
def ofName? (s : String) : Option Remedy :=
  all.find? (·.name == s)

end Remedy

/-- What is said about one operation. -/
structure Verdict where
  status : Status
  rationale : String
  remedy : Remedy
  lock : Option Lock
  rule : String
  /-- Whether the author of the migration vouches for it. -/
  assured : Bool
  deriving DecidableEq

namespace Verdict

/-- A verdict as reports write it. -/
def record (v : Verdict) : Value :=
  .record
    [("status", .text v.status.name), ("rationale", .text v.rationale),
      ("remediation", .text v.remedy.name),
      ("lock_mode", match v.lock with | none => .null | some lock => .text lock.name),
      ("rule_id", .text v.rule), ("assured", .flag v.assured)]

end Verdict

end MigrationSafety
