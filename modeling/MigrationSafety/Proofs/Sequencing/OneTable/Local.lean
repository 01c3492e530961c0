import MigrationSafety.Proofs.Sequencing.OneTable.Findings
import MigrationSafety.Proofs.Sequencing.OneTable.Verdicts
import MigrationSafety.Proofs.Sequencing.Typed

/-!
# The second pass is local to a table

Operations on other tables do not matter to what the second pass says about the operations on one
table. Over these alone it corrects their verdicts in the same way, and finds the violations between
them that it finds in the whole plan.

* `Plan.bothOn`, `Plan.renumberViolation`: violations on a table;
* `violation_renumbered`: a finding on a table is worded in the same way there;
* `areOf_onTable`: the violations on a table;
* `sequence_onTable`: the second pass over the operations on a table.
-/

namespace MigrationSafety

/-- Whether both operations of a violation are on a table. -/
def Plan.bothOn (t : String) (p : Plan) (x : Violation) : Bool :=
  p.isOn t x.first && p.isOn t x.second

/-- A violation with its operations at their places among those on a table. -/
def Plan.renumberViolation (t : String) (p : Plan) (x : Violation) : Violation :=
  { x with first := p.renumber t x.first, second := p.renumber t x.second }

section
variable {t : String} {p : Plan}

/-! ## Violations on a table -/

theorem between_renumbered {a b : PlacedOperation} (ha : a ∈ p.placed) (hb : b ∈ p.placed)
    (hat : a.operation.isOn t = true) (hbt : b.operation.isOn t = true) (rule message : String) :
    Violation.between rule message (p.renumbered t a).ref (p.renumbered t b).ref =
      p.renumberViolation t (Violation.between rule message a.ref b.ref) := by
  rw [Violation.between, Violation.between, Plan.before_renumbered hb ha hbt hat]
  split <;> rfl

variable {f : Finding} {x : Violation}

theorem bothOn_of_violation (hf : p.Finds f) (h : f.violation.outcome = .ok x) :
    p.bothOn t x = f.isOn t := by
  rw [Finding.isOn, ← Plan.isOn_ref hf.left_mem, ← Plan.isOn_ref hf.right_mem]
  exact symmetric_of_violation (q := fun a b => p.isOn t a && p.isOn t b)
    (fun _ _ => Bool.and_comm _ _) h

/-- A finding on a table is worded in the same way among the operations on it. -/
theorem violation_renumbered (hf : p.Finds f) (hft : f.isOn t = true)
    (h : f.violation.outcome = .ok x) :
    (f.renumbered t p).violation.outcome = .ok (p.renumberViolation t x) := by
  obtain ⟨a, b, ha, hb, rfl⟩ := Finding.violation_eq_ok.mp h
  obtain ⟨hleft, hright⟩ := (Bool.and_eq_true _ _).mp hft
  rw [Finding.violation_eq_ok, ← between_renumbered hf.left_mem hf.right_mem hleft hright]
  cases f <;> exact ⟨a, b, ha, hb, rfl⟩

/-- The violations on a table are those of what is found on it. -/
theorem areOf_onTable {xs : List Violation} (h : Violation.AreOf p.findings xs) :
    Violation.AreOf (p.onTable t).findings
      ((xs.filter (p.bothOn t)).map (p.renumberViolation t)) := by
  have hfinds : List.Forall₂ (fun f x => p.Finds f ∧ f.violation.outcome = .ok x) p.findings xs :=
    (List.forall₂_and_left _ _).mpr ⟨fun _ hf => Plan.finds_of_mem hf, h⟩
  have hon : List.Forall₂ (fun f x => f.isOn t = true ∧ p.Finds f ∧ f.violation.outcome = .ok x)
      (p.findings.filter (·.isOn t)) (xs.filter (p.bothOn t)) := by
    refine (List.forall₂_and_left _ _).mpr ⟨fun f hf => (List.mem_filter.mp hf).2, ?_⟩
    exact List.rel_filter (fun f x hfx => by simp only [bothOn_of_violation hfx.1 hfx.2]) hfinds
  rw [Plan.findings_onTable]
  exact List.rel_map (fun f x ⟨hft, hf, hfx⟩ => violation_renumbered hf hft hfx) hon

/-- What is found about a validation is between two operations on one table. -/
theorem Plan.Finds.isOn_eq (hf : p.Finds f) (hrule : f.rule ≠ isolationRule) :
    f.left.operation.isOn t = f.right.operation.isOn t := by
  cases hf with
  | isolation => exact absurd rfl hrule
  | deferred _ _ _ hvalidates _ => exact isOn_of_validatedBy hvalidates
  | validateFirst _ _ hvalidates _ => exact (isOn_of_validatedBy hvalidates).symm

theorem isOn_of_violation (hf : p.Finds f) (h : f.violation.outcome = .ok x)
    (hrule : x.rule ≠ isolationRule) : p.isOn t x.first = p.isOn t x.second := by
  have heq : p.isOn t f.left.ref = p.isOn t f.right.ref := by
    rw [Plan.isOn_ref hf.left_mem, Plan.isOn_ref hf.right_mem]
    exact hf.isOn_eq (rule_of_violation h ▸ hrule)
  have hsame := symmetric_of_violation (q := fun a b => p.isOn t a == p.isOn t b)
    (fun _ _ => Bool.beq_comm) h
  rw [heq, beq_self_eq_true] at hsame
  exact beq_iff_eq.mp hsame

/-! ## The second pass -/

variable {verdicts : List (List Verdict)} {s : Sequenced}

/-- The second pass over the operations on a table. -/
theorem sequence_part (h : (sequence p verdicts).outcome = .ok s) :
    (sequence (p.onTable t) (p.verdictsOn t verdicts)).outcome = .ok ⟨p.verdictsOn t s.verdicts,
      (s.violations.filter (p.bothOn t)).map (p.renumberViolation t)⟩ := by
  obtain ⟨ha, exemptedVerdicts, hexempt, hrefine, hfindings⟩ := sequence_iff.mp h
  refine sequence_iff.mpr ⟨aligned_onTable ha, p.verdictsOn t exemptedVerdicts,
    exemptRows_onTable ha hexempt, ?_, areOf_onTable hfindings⟩
  exact refineRows_onTable (aligned_of_exemptRows ha hexempt) hrefine

end

/-- The second pass is local to a table. Over the operations on the table alone it comes to the same
verdicts about them and to the violations between them, which are the same but for the places of the
operations; of a violation by a validation, both operations are on the table or none is. So plans
with the same operations on a table, and the same verdicts about them, do not differ in what the
second pass says about the table. -/
theorem sequence_onTable (t : String) (p : Plan) (verdicts : List (List Verdict)) :
    (p.isTyped = true → aligned p verdicts = true →
      ∃ s, (sequence p verdicts).outcome = .ok s) ∧
    ∀ s, (sequence p verdicts).outcome = .ok s →
      (∃ s', (sequence (p.onTable t) (p.verdictsOn t verdicts)).outcome = .ok s' ∧
        s'.verdicts = p.verdictsOn t s.verdicts ∧
        s'.violations = (s.violations.filter (p.bothOn t)).map (p.renumberViolation t)) ∧
      (∀ x ∈ s.violations, x.rule ≠ isolationRule → p.isOn t x.first = p.isOn t x.second) ∧
      ∀ q verdicts' s', q.onTable t = p.onTable t →
        q.verdictsOn t verdicts' = p.verdictsOn t verdicts →
        (sequence q verdicts').outcome = .ok s' →
        q.verdictsOn t s'.verdicts = p.verdictsOn t s.verdicts ∧
          (s'.violations.filter (q.bothOn t)).map (q.renumberViolation t) =
            (s.violations.filter (p.bothOn t)).map (p.renumberViolation t) := by
  refine ⟨sequence_total, fun s hs => ⟨⟨_, sequence_part hs, rfl, rfl⟩, fun x hx hrule => ?_,
    fun q verdicts' s' hplan hverdicts hs' => ?_⟩⟩
  · obtain ⟨f, hf, hfx⟩ := exists_of_forall₂ (findings_of_sequence hs) hx
    exact isOn_of_violation (Plan.finds_of_mem hf) hfx hrule
  · have hq := sequence_part (t := t) hs'
    rw [hplan, hverdicts, sequence_part hs, Except.ok.injEq] at hq
    exact ⟨(congrArg Sequenced.verdicts hq).symm, (congrArg Sequenced.violations hq).symm⟩

/-- A migration that adds and validates a key on one table between operations on another one. -/
def keyAmongOthers : Plan :=
  ⟨[⟨.text "orders",
    [.createTable (.text "users") false,
      .addForeignKey (.text "orders") (.text "users") (.text "user_id") .null false,
      .createIndex (.text "users") [.text "email"] .null false true,
      .validateForeignKey (.text "orders") (.text "users") .null], false, false, false⟩]⟩

/-- A verdict about every operation of the migration. -/
def unsafeKey : List (List Verdict) :=
  [List.replicate 4 ⟨.unsafeChange, "", .nothing, none, "add-foreign-key", false⟩]

/-- The key and its validation are the first two operations on their table. -/
theorem sequence_onTable_keyAmongOthers :
    ∃ s s', (sequence keyAmongOthers unsafeKey).outcome = .ok s ∧
      (sequence (keyAmongOthers.onTable "orders")
        (keyAmongOthers.verdictsOn "orders" unsafeKey)).outcome = .ok s' ∧
      s'.verdicts = keyAmongOthers.verdictsOn "orders" s.verdicts ∧
      s.violations.map (fun x => (x.first.index, x.second.index)) =
        [(0, 2), (1, 2), (2, 3), (1, 3)] ∧
      s'.violations.map (fun x => (x.first.index, x.second.index)) = [(0, 1)] := by
  obtain ⟨s, hs, hplaces, hrenumbered⟩ : ∃ s, (sequence keyAmongOthers unsafeKey).outcome = .ok s ∧
      s.violations.map (fun x => (x.first.index, x.second.index)) =
        [(0, 2), (1, 2), (2, 3), (1, 3)] ∧
      ((s.violations.filter (keyAmongOthers.bothOn "orders")).map
        (keyAmongOthers.renumberViolation "orders")).map
          (fun x => (x.first.index, x.second.index)) = [(0, 1)] :=
    ⟨_, rfl, by decide, by decide⟩
  obtain ⟨-, hlocal⟩ := sequence_onTable "orders" keyAmongOthers unsafeKey
  obtain ⟨⟨s', hs', hverdicts, hviolations⟩, -⟩ := hlocal s hs
  exact ⟨s, s', hs, hs', hverdicts, hplaces, hviolations ▸ hrenumbered⟩

end MigrationSafety
