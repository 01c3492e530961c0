import MigrationSafety.Proofs.Sequencing.Corrected
import MigrationSafety.Proofs.Sequencing.Typed

/-!
# The second pass over its own verdicts

The second pass changes verdicts that it has corrected no more, although it gives some of them a
rule that is exempt on new tables. Both passes walk along the operations in the same states as
before, so this follows from what they make of one verdict.

* `row_idempotent`, `rows_idempotent`: the two passes over a migration and over a plan;
* `sequence_idempotent`: the whole second pass.
-/

namespace MigrationSafety

/-- Both passes over the corrected verdicts of a migration, from the tables that it has created and
from what is known by then. -/
theorem row_idempotent {ops : List Operation} {verdicts exemptedVerdicts out : List Verdict}
    {created : List Value} {s t : NotNullState} (hlength : verdicts.length = ops.length)
    (hexempt : exemptRow created (ops.zip verdicts) = .ok exemptedVerdicts)
    (hrefine : refineRow s (ops.zip exemptedVerdicts) = .ok (t, out)) :
    exemptRow created (ops.zip out) = .ok out ∧ refineRow s (ops.zip out) = .ok (t, out) := by
  induction ops generalizing verdicts exemptedVerdicts out created s with
  | nil =>
    cases hrefine
    exact ⟨rfl, rfl⟩
  | cons op ops ih =>
    cases verdicts with
    | nil => cases hlength
    | cons v verdicts =>
      rw [List.zip_cons_cons] at hexempt
      obtain ⟨hscalar, exemptedRest, hexemptRest, rfl⟩ := exemptRow_cons_eq_ok.mp hexempt
      rw [List.zip_cons_cons] at hrefine
      obtain ⟨w, s', rest, hanswer, hstep, hrefineRest, rfl⟩ := refineRow_cons_eq_ok.mp hrefine
      obtain ⟨hexempted, hanswered⟩ := (corrected_of_answer hanswer).fixed
      obtain ⟨ihExempt, ihRefine⟩ := ih (Nat.succ.inj hlength) hexemptRest hrefineRest
      rw [List.zip_cons_cons]
      exact ⟨exemptRow_cons_eq_ok.mpr ⟨hscalar, rest, ihExempt, by rw [hexempted]⟩,
        refineRow_cons_eq_ok.mpr ⟨w, s', rest, hanswered, hstep, ihRefine, rfl⟩⟩

/-- Both passes over the corrected verdicts of a plan. -/
theorem rows_idempotent {grid : List (List Operation)}
    {verdicts exemptedVerdicts out : List (List Verdict)} {s : NotNullState}
    (hshape : grid.map List.length = verdicts.map List.length)
    (hexempt : exemptRows (List.zipWith List.zip grid verdicts) = .ok exemptedVerdicts)
    (hrefine : refineRows s (List.zipWith List.zip grid exemptedVerdicts) = .ok out) :
    exemptRows (List.zipWith List.zip grid out) = .ok out ∧
      refineRows s (List.zipWith List.zip grid out) = .ok out := by
  induction grid generalizing verdicts exemptedVerdicts out s with
  | nil =>
    cases hrefine
    exact ⟨rfl, rfl⟩
  | cons ops grid ih =>
    cases verdicts with
    | nil => cases hshape
    | cons row verdicts =>
      obtain ⟨hlength, hshape⟩ := List.cons.inj hshape
      rw [List.zipWith_cons_cons] at hexempt
      obtain ⟨exemptedRow, exemptedRest, hexemptRow, hexemptRest, rfl⟩ :=
        exemptRows_cons_eq_ok.mp hexempt
      rw [List.zipWith_cons_cons] at hrefine
      obtain ⟨t, row', rest, hrefineRow, hrefineRest, rfl⟩ := refineRows_cons_eq_ok.mp hrefine
      obtain ⟨hrowExempt, hrowRefine⟩ := row_idempotent hlength.symm hexemptRow hrefineRow
      obtain ⟨ihExempt, ihRefine⟩ := ih hshape hexemptRest hrefineRest
      rw [List.zipWith_cons_cons]
      exact ⟨exemptRows_cons_eq_ok.mpr ⟨row', rest, hrowExempt, ihExempt, rfl⟩,
        refineRows_cons_eq_ok.mpr ⟨t, row', rest, hrowRefine, ihRefine, rfl⟩⟩

/-- The second pass over verdicts that it has corrected returns the same verdicts and the same
violations. -/
theorem sequence_idempotent (p : Plan) (verdicts : List (List Verdict)) :
    (p.isTyped = true → aligned p verdicts = true →
      ∃ s, (sequence p verdicts).outcome = .ok s) ∧
    ∀ s, (sequence p verdicts).outcome = .ok s → (sequence p s.verdicts).outcome = .ok s := by
  refine ⟨sequence_total, fun s hs => ?_⟩
  obtain ⟨ha, exemptedVerdicts, hexempt, hrefine, hfindings⟩ := sequence_iff.mp hs
  rw [rowsOf_eq_zipWith] at hexempt hrefine
  obtain ⟨hexemptAgain, hrefineAgain⟩ := rows_idempotent (aligned_iff.mp ha) hexempt hrefine
  rw [← rowsOf_eq_zipWith] at hexemptAgain hrefineAgain
  exact sequence_iff.mpr
    ⟨aligned_of_sequence hs, s.verdicts, hexemptAgain, hrefineAgain, hfindings⟩

/-- A plan that forbids null before it creates the table, after it, and after a check. -/
def recreatedTable : Plan :=
  ⟨[⟨.text "recreate",
    [.setNotNull (.text "users") (.text "email") true, .createTable (.text "users") true,
      .setNotNull (.text "users") (.text "email") true], false, false, false⟩,
    ⟨.text "check",
      [.addCheckConstraint (.text "users") (.text "name IS NOT NULL") .null true,
        .setNotNull (.text "users") (.text "name") true], false, false, false⟩]⟩

/-- Verdicts about this plan, with all questions about NOT NULL open. -/
def recreatedTableVerdicts : List (List Verdict) :=
  let pending : Verdict :=
    ⟨.conditionallySafe, "", .validateSeparately, none, pendingNotNullRule, false⟩
  [[pending, ⟨.unsafeChange, "", .nothing, none, "create-table-force", false⟩, pending],
    [⟨.unsafeChange, "", .validateSeparately, none, "add-check-constraint", false⟩, pending]]

theorem sequence_idempotent_recreatedTable :
    ∃ s, (sequence recreatedTable recreatedTableVerdicts).outcome = .ok s ∧
      (sequence recreatedTable s.verdicts).outcome = .ok s ∧
      s.verdicts.map (·.map Verdict.rule) =
        [["set-not-null-scan", "create-table-force", newTableRule],
          ["add-check-constraint", "set-not-null-after-check"]] := by
  obtain ⟨-, hsame⟩ := sequence_idempotent recreatedTable recreatedTableVerdicts
  exact ⟨_, rfl, hsame _ rfl, rfl⟩

end MigrationSafety
