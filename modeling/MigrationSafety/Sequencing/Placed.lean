import MigrationSafety.Migration
import MigrationSafety.Operation.Describe
import MigrationSafety.Sequencing.Reference
import MigrationSafety.Trace

/-!
# Operations in their places

* `Plan.placed`: the operations of a plan, each with its place, in the order in which they run;
* `Violation.found`: a violation, logged as it is found.
-/

namespace MigrationSafety

/-- An operation and its place. -/
structure PlacedOperation where
  ref : OperationRef
  operation : Operation

/-- The operations of a migration with their places, where `index` is the index of the
migration. -/
def Migration.placed (m : Migration) (index : Nat) : List PlacedOperation :=
  m.operations.zipIdx.map fun (op, i) => ⟨⟨index, i, m.name⟩, op⟩

/-- The operations of a plan with their places, in the order in which they run. -/
def Plan.placed (p : Plan) : List PlacedOperation :=
  p.migrations.zipIdx.flatMap fun (m, i) => m.placed i

/-- A violation by two operations, logged as it is found. -/
def Violation.found (rule message : String) (a b : OperationRef) : Traced Violation := do
  let v := Violation.between rule message a b
  Traced.say .debug s!"{rule}: {v.first.display} / {v.second.display}"
  pure v

theorem mem_placed {m : Migration} {i : Nat} {p : PlacedOperation} :
    p ∈ m.placed i ↔
      ∃ (j : Nat) (op : Operation), m.operations[j]? = some op ∧ p = ⟨⟨i, j, m.name⟩, op⟩ := by
  simp only [Migration.placed, List.mem_map, Prod.exists, List.mk_mem_zipIdx_iff_getElem?]
  constructor
  · rintro ⟨op, j, h, rfl⟩
    exact ⟨j, op, h, rfl⟩
  · rintro ⟨j, op, h, rfl⟩
    exact ⟨op, j, h, rfl⟩

end MigrationSafety
