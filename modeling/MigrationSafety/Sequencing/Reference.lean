import MigrationSafety.Value.Display

/-!
# References to operations

The place of an operation in a plan: the index of its migration and its index there. The name of
the migration is carried along for display and takes no part in comparisons.

* `OperationRef.before`: the order of a plan;
* `Violation`: two operations that stand wrongly to each other.
-/

namespace MigrationSafety

/-- The place of an operation in a plan. -/
structure OperationRef where
  migration : Int
  index : Int
  name : Value

namespace OperationRef

/-- Whether an operation runs before another one. -/
def before (a b : OperationRef) : Bool :=
  a.migration < b.migration || (a.migration == b.migration && a.index < b.index)

/-- Whether two references have the same place. -/
def samePlace (a b : OperationRef) : Bool :=
  a.migration == b.migration && a.index == b.index

/-- A reference as messages write it: by the name of the migration, or its index if it has no
name. -/
def display (r : OperationRef) : String :=
  let migration := if r.name.truthy then r.name.display else toString r.migration
  s!"{migration}#{r.index}"

/-- The fields of a reference as reports write them. -/
def fields (r : OperationRef) : List (String × Value) :=
  [("unit_index", .int r.migration), ("unit_name", r.name), ("operation_index", .int r.index)]

theorem before_irrefl (a : OperationRef) : a.before a = false := by
  simp [before]

theorem before_trans {a b c : OperationRef} (h₁ : a.before b) (h₂ : b.before c) : a.before c := by
  simp only [before, Bool.or_eq_true, Bool.and_eq_true, decide_eq_true_eq, beq_iff_eq] at *
  omega

theorem before_total (a b : OperationRef) : a.before b ∨ a.samePlace b ∨ b.before a := by
  simp only [before, samePlace, Bool.or_eq_true, Bool.and_eq_true, decide_eq_true_eq, beq_iff_eq]
  omega

theorem before_asymm {a b : OperationRef} (h : a.before b = true) : b.before a = false := by
  rw [← Bool.not_eq_true]
  intro hba
  exact absurd (before_trans h hba) (by simp [before_irrefl])

/-- The place of an operation is that of another one if neither runs before the other. -/
theorem samePlace_eq (a b : OperationRef) : a.samePlace b = (!a.before b && !b.before a) := by
  rw [Bool.eq_iff_iff]
  simp only [samePlace, before, Bool.and_eq_true, Bool.not_eq_true', Bool.or_eq_false_iff,
    Bool.and_eq_false_iff, decide_eq_false_iff_not, beq_eq_false_iff_ne, beq_iff_eq]
  omega

end OperationRef

/-- Two operations that stand wrongly to each other. -/
structure Violation where
  rule : String
  message : String
  first : OperationRef
  second : OperationRef
  /-- Whether the authors of both migrations vouch for them. -/
  assured : Bool

namespace Violation

/-- A violation by two operations, in the order of the plan. -/
def between (rule message : String) (a b : OperationRef) : Violation :=
  if b.before a then ⟨rule, message, b, a, false⟩ else ⟨rule, message, a, b, false⟩

/-- A violation as reports write it. -/
def record (v : Violation) : Value :=
  .record
    [("rule_id", .text v.rule), ("message", .text v.message), ("first", .record v.first.fields),
      ("second", .record v.second.fields), ("assured", .flag v.assured)]

end Violation

end MigrationSafety
