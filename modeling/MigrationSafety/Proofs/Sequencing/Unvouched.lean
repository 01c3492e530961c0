import MigrationSafety.Proofs.Outcome
import MigrationSafety.Sequencing.Sequence

/-!
# The second pass does not ask who vouches for a migration

A plan for whose migrations nobody vouches has the same operations in the same places. The second
pass reads nothing else, so it comes to the same verdicts and violations.

* `Plan.unvouched`: a plan for whose migrations nobody vouches;
* `isolationViolations_unvouched`, `validationViolations_unvouched`: its violations;
* `sequence_unvouched`: the second pass over it.
-/

namespace MigrationSafety

/-- A migration whose author does not vouch for it. -/
def Migration.unvouched (m : Migration) : Migration :=
  { m with assured := false }

/-- A plan for whose migrations nobody vouches. -/
def Plan.unvouched (p : Plan) : Plan :=
  ⟨p.migrations.map Migration.unvouched⟩

section
variable (p : Plan)

/-- What is read off a migration without asking who vouches for it. -/
theorem flatMap_unvouched {α : Type} {f : Migration × Nat → List α}
    (hf : ∀ m i, f (m.unvouched, i) = f (m, i)) :
    p.unvouched.migrations.zipIdx.flatMap f = p.migrations.zipIdx.flatMap f := by
  rw [Plan.unvouched, List.zipIdx_map, List.flatMap_map]
  exact List.flatMap_congr fun ⟨m, i⟩ _ => hf m i

theorem placed_unvouched : p.unvouched.placed = p.placed :=
  flatMap_unvouched p fun _ _ => rfl

theorem isolationViolations_unvouched :
    isolationViolations p.unvouched = isolationViolations p := by
  rw [isolationViolations, isolationViolations, flatMap_unvouched p fun _ _ => rfl]

theorem onCreatedTable_unvouched (x : PlacedOperation) :
    p.unvouched.onCreatedTable x = p.onCreatedTable x := by
  rw [Plan.onCreatedTable, Plan.unvouched, List.zipIdx_map, List.any_map]
  rfl

theorem violationsOf_unvouched (v : PlacedOperation) (creations : List PlacedOperation) :
    violationsOf p.unvouched v creations = violationsOf p v creations := by
  have hdefer : p.unvouched.mustDefer v = p.mustDefer v := by
    funext c
    rw [Plan.mustDefer, Plan.mustDefer, onCreatedTable_unvouched]
  rw [violationsOf, violationsOf, hdefer]

theorem validationViolations_unvouched :
    validationViolations p.unvouched = validationViolations p := by
  simp only [validationViolations, Plan.validations, Plan.unvalidated, placed_unvouched,
    violationsOf_unvouched]

theorem aligned_unvouched (verdicts : List (List Verdict)) :
    aligned p.unvouched verdicts = aligned p verdicts := by
  rw [aligned, aligned, Plan.unvouched, List.length_map, List.zip_map_left, List.all_map]
  rfl

theorem rowsOf_unvouched (verdicts : List (List Verdict)) :
    rowsOf p.unvouched verdicts = rowsOf p verdicts := by
  rw [rowsOf, rowsOf, Plan.unvouched, List.zip_map_left, List.map_map]
  rfl

/-- The second pass comes to the same verdicts and violations whoever vouches for migrations. -/
theorem sequence_unvouched (verdicts : List (List Verdict)) :
    sequence p.unvouched verdicts = sequence p verdicts := by
  simp only [sequence, aligned_unvouched, rowsOf_unvouched, isolationViolations_unvouched,
    validationViolations_unvouched]

end

end MigrationSafety
