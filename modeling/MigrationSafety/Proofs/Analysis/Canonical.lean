import MigrationSafety.Proofs.Analysis.Assured
import MigrationSafety.Proofs.Sequencing.Distinct

/-!
# Reports have one form

Two reports that say the same are the same: whatever a report is about, it lists results and
violations in strict order, each of them once, and says in one way which operations a violation is
about.

* `Plan.Names`: references to operations of a plan;
* `Report.Canonical`: a report in that form;
* `operations_of_violation`: the operations of a violation in a report;
* `canonical_of_analyze`: every report is in that form.
-/

namespace MigrationSafety

/-- A reference to an operation of a plan, with the name of the migration in which it stands. -/
def Plan.Names (p : Plan) (ref : OperationRef) : Prop :=
  ∃ (i j : Nat) (m : Migration) (op : Operation), p.migrations[i]? = some m ∧
    m.operations[j]? = some op ∧ ref = ⟨i, j, m.name⟩

theorem Plan.names_of_mem_placed {p : Plan} {x : PlacedOperation} (hx : x ∈ p.placed) :
    p.Names x.ref := by
  obtain ⟨i, j, m, op, hm, hop, rfl⟩ := Plan.mem_placed.mp hx
  exact ⟨i, j, m, op, hm, hop, rfl⟩

/-- A report on a plan in its one form. -/
structure Report.Canonical (p : Plan) (r : Report) : Prop where
  /-- Results are listed in the order of the plan, no operation twice. -/
  results : r.results.Pairwise fun x y => x.ref.before y.ref = true
  /-- Violations are listed by their first operation, their second one and their rule, none
  twice. -/
  violations : r.violations.Pairwise fun x y => x.before y = true
  /-- Both operations of a violation are in the plan. -/
  names : ∀ x ∈ r.violations, p.Names x.first ∧ p.Names x.second
  /-- The operation of a violation that runs first comes first. -/
  ordered : ∀ x ∈ r.violations, x.first.before x.second = true
  /-- Isolation and the deferral of validations are asked of one migration. -/
  within : ∀ x ∈ r.violations, x.rule = isolationRule ∨ x.rule = deferredRule →
    x.first.migration = x.second.migration

/-! ## The operations of a violation -/

theorem before_between {a b : OperationRef} (h : a.key ≠ b.key) (rule message : String) :
    (Violation.between rule message a b).first.before
      (Violation.between rule message a b).second = true := by
  rw [Violation.between]
  split
  · assumption
  · rename_i hba
    rw [OperationRef.before_iff] at hba ⊢
    exact lt_of_le_of_ne (not_lt.mp hba) h

theorem migration_between {a b : OperationRef} (h : a.migration = b.migration)
    (rule message : String) : (Violation.between rule message a b).first.migration =
      (Violation.between rule message a b).second.migration := by
  rw [Violation.between]
  split
  · exact h.symm
  · exact h

/-- Isolation and the deferral of validations are asked of one migration. -/
theorem Plan.Finds.migration_eq {p : Plan} {f : Finding} (hf : p.Finds f)
    (hrule : f.rule ≠ validateFirstRule) : f.left.ref.migration = f.right.ref.migration := by
  cases hf with
  | isolation _ _ hmigration _ _ => exact hmigration
  | deferred _ _ _ _ hdefer => exact beq_iff_eq.mp ((Bool.and_eq_true _ _).mp hdefer).1
  | validateFirst => exact absurd rfl hrule

/-! ## Reports -/

section
variable {config : Config} {kb : KnowledgeBase} {engine : Engine} {p : Plan} {r : Report}

/-- The keys of the violations that are reported. -/
theorem keys_reportedViolations (p : Plan) (reported : List Nat) (xs : List Violation) :
    (p.reportedViolations reported xs).map Violation.key =
      (xs.filter (·.touches reported)).map Violation.key := by
  rw [Plan.reportedViolations, List.map_map]
  exact List.map_congr_left fun x _ => key_assure p x

/-- The operations of a violation of a report. -/
theorem operations_of_violation (h : (analyze config kb engine p).outcome = .ok r) {x : Violation}
    (hx : x ∈ r.violations) : (p.Names x.first ∧ p.Names x.second) ∧
      x.first.before x.second = true ∧
      (x.rule = isolationRule ∨ x.rule = deferredRule →
        x.first.migration = x.second.migration) := by
  obtain ⟨f, y, hf, hfy, rfl⟩ := exists_finding_of_analyze h hx
  have hrule := rule_of_violation hfy
  obtain ⟨⟨a, ha, hfirst⟩, ⟨b, hb, hsecond⟩, -⟩ := foundIn_of_violation hf hfy
  rw [assure_eq]
  refine ⟨⟨hfirst ▸ Plan.names_of_mem_placed ha, hsecond ▸ Plan.names_of_mem_placed hb⟩, ?_⟩
  obtain ⟨_, _, -, -, rfl⟩ := Finding.violation_eq_ok.mp hfy
  refine ⟨before_between hf.key_ne _ _,
    fun hwithin => migration_between (hf.migration_eq fun hvalidation => ?_) _ _⟩
  have hrules : isolationRule ≠ validateFirstRule ∧ deferredRule ≠ validateFirstRule := by decide
  rw [← hrule] at hvalidation
  rcases hwithin with hwithin | hwithin
  · exact hrules.1 (hwithin.symm.trans hvalidation)
  · exact hrules.2 (hwithin.symm.trans hvalidation)

/-- Every report is in its one form: its results and its violations are strictly increasing, both
operations of a violation are in the plan, the first one runs first, and isolation and the deferral
of validations are asked of one migration. -/
theorem canonical_of_analyze (h : (analyze config kb engine p).outcome = .ok r) :
    r.Canonical p where
  names x hx := (operations_of_violation h hx).1
  ordered x hx := (operations_of_violation h hx).2.1
  within x hx := (operations_of_violation h hx).2.2
  results := by
    obtain ⟨reported, verdicts, s, -, -, -, rfl⟩ := analyze_eq_ok.mp h
    rw [results_build]
    exact results_sorted p reported s.verdicts
  violations := by
    obtain ⟨reported, verdicts, s, -, -, hs, rfl⟩ := analyze_eq_ok.mp h
    refine violations_build_sorted _ _ _ ?_
    rw [keys_reportedViolations]
    exact (keys_distinct hs).sublist (List.filter_sublist.map _)

end

/-- A migration that builds an index concurrently, and adds and validates a foreign key. -/
def indexAndKey : Plan :=
  ⟨[⟨.text "orders",
    [.createIndex (.text "orders") [.text "total"] .null false true,
      .addForeignKey (.text "orders") (.text "users") (.text "user_id") .null false,
      .validateForeignKey (.text "orders") (.text "users") .null], false, false, false⟩]⟩

/-- The index is reported with both other operations, and the foreign key with its validation. -/
theorem canonical_of_analyze_indexAndKey :
    ∃ r, (analyze {} .builtIn (Engine.ofKind .postgres) indexAndKey).outcome = .ok r ∧
      r.violations.length = 3 ∧ r.Canonical indexAndKey := by
  obtain ⟨r, hr, hlength⟩ : ∃ r, (analyze {} .builtIn (Engine.ofKind .postgres)
      indexAndKey).outcome = .ok r ∧ r.violations.length = 3 :=
    ⟨_, rfl, (violations_build_perm _ _ _ _).length_eq⟩
  exact ⟨r, hr, hlength, canonical_of_analyze hr⟩

end MigrationSafety
