import MigrationSafety.Proofs.Alike
import MigrationSafety.Proofs.Analysis.Report
import MigrationSafety.Proofs.Report.Order
import MigrationSafety.Proofs.Sequencing.Unvouched
import MigrationSafety.Proofs.Sequencing.Violations

/-!
# Migrations whose authors vouch for them

That an author vouches for a migration excuses what is found in it and does nothing else: the report
says the same, with some of its results and violations marked, and it may no longer block.

* `Migration.Vouched`, `Verdict.Vouched`, `Violation.Vouched`: the same again, where authors may
  vouch for more;
* `Plan.VouchedAt`: whether an author vouches for an operation of a plan;
* `classifyPlan_vouched`, `sequence_vouched`: verdicts and violations do not hang on who vouches;
* `results_vouched`, `violations_vouched`: what is reported is the same but for the marks;
* `assured_only_excuses`: what a report says does not hang on who vouches, and it blocks less.
-/

namespace MigrationSafety

/-! ## The same with more vouched for -/

/-- The same migration again, whose author may now vouch for it. -/
structure Migration.Vouched (m m' : Migration) : Prop where
  same : m' = { m with assured := m'.assured }
  kept : m.assured = true → m'.assured = true

/-- The same verdict again, which may now be excused. -/
structure Verdict.Vouched (v w : Verdict) : Prop where
  same : w = { v with assured := w.assured }
  kept : v.assured = true → w.assured = true

/-- The same violation again, which may now be excused. -/
structure Violation.Vouched (x y : Violation) : Prop where
  same : y = { x with assured := y.assured }
  kept : x.assured = true → y.assured = true

/-- The same plan again, where the authors of more migrations may vouch for them. -/
def Plan.Vouched (p q : Plan) : Prop :=
  List.Forall₂ Migration.Vouched p.migrations q.migrations

/-- Whether the author of the migration of an operation vouches for it. -/
def Plan.VouchedAt (p : Plan) (ref : OperationRef) : Prop :=
  ∃ (i : Nat) (m : Migration), ref.migration = i ∧ p.migrations[i]? = some m ∧ m.assured = true

theorem Migration.Vouched.unvouched_eq {m m' : Migration} (h : m.Vouched m') :
    m.unvouched = m'.unvouched := by
  rw [h.same]
  rfl

section
variable {p q : Plan}

theorem Plan.Vouched.unvouched_eq (h : p.Vouched q) : p.unvouched = q.unvouched := by
  rw [unvouched, unvouched, map_eq_of_forall₂ h fun _ _ hm => hm.unvouched_eq]

theorem Plan.isAssured_iff {ref : OperationRef} :
    p.isAssured ref.migration = true ↔ p.VouchedAt ref := by
  simp only [isAssured, VouchedAt, List.any_eq_true, Prod.exists,
    List.mk_mem_zipIdx_iff_getElem?, Bool.and_eq_true, beq_iff_eq]
  constructor
  · rintro ⟨m, i, hm, hi, ha⟩
    exact ⟨i, m, hi, hm, ha⟩
  · rintro ⟨i, m, hi, hm, ha⟩
    exact ⟨m, i, hm, hi, ha⟩

theorem Plan.VouchedAt.mono (h : p.Vouched q) {ref : OperationRef} (hp : p.VouchedAt ref) :
    q.VouchedAt ref := by
  obtain ⟨i, m, hi, hm, ha⟩ := hp
  obtain ⟨m', hm', hvouched⟩ := getElem?_of_forall₂ h hm
  exact ⟨i, m', hi, hm', hvouched.kept ha⟩

/-! ## Verdicts and violations -/

theorem classifyPlan_unvouched (config : Config) (kb : KnowledgeBase) (engine : Engine)
    (p : Plan) : classifyPlan config kb engine p.unvouched = classifyPlan config kb engine p :=
  Traced.forEach_map _ _ p.migrations

/-- The verdicts of the rules do not hang on who vouches for migrations. -/
theorem classifyPlan_vouched (h : p.Vouched q) (config : Config) (kb : KnowledgeBase)
    (engine : Engine) : classifyPlan config kb engine q = classifyPlan config kb engine p := by
  rw [← classifyPlan_unvouched, ← h.unvouched_eq, classifyPlan_unvouched]

/-- What the second pass makes of them does not either. -/
theorem sequence_vouched (h : p.Vouched q) (verdicts : List (List Verdict)) :
    sequence q verdicts = sequence p verdicts := by
  rw [← sequence_unvouched, ← h.unvouched_eq, sequence_unvouched]

theorem names_vouched (h : p.Vouched q) :
    q.migrations.map (·.name) = p.migrations.map (·.name) :=
  (map_eq_of_forall₂ h fun m m' hm => by rw [hm.same]).symm

/-! ## What is reported -/

theorem results_vouched (h : p.Vouched q) (reported : List Nat) (verdicts : List (List Verdict)) :
    List.Forall₂ (Result.Related Verdict.Vouched) (p.results reported verdicts)
      (q.results reported verdicts) := by
  refine results_related (R := Eq) h (fun m m' i hm => by rw [hm.same]; rfl) ?_
    (List.forall₂_same.mpr fun _ _ => List.forall₂_same.mpr fun _ _ => rfl) reported
  rintro m m' v _ hm rfl
  refine ⟨rfl, fun ha => ?_⟩
  rcases (Bool.or_eq_true _ _).mp ha with hv | ha
  · exact (Bool.or_eq_true _ _).mpr (.inl hv)
  · exact (Bool.or_eq_true _ _).mpr (.inr (hm.kept ha))

theorem assure_eq (p : Plan) (x : Violation) :
    x.assure p = { x with assured := (x.assure p).assured } := by
  rw [Violation.assure]
  split <;> rfl

theorem key_assure (p : Plan) (x : Violation) : (x.assure p).key = x.key := by
  rw [assure_eq]
  rfl

/-- A violation for which nobody has vouched yet is excused if both authors vouch. -/
theorem assured_assure {x : Violation} (ha : x.assured = false) :
    (x.assure p).assured = true ↔ p.VouchedAt x.first ∧ p.VouchedAt x.second := by
  rw [← Plan.isAssured_iff, ← Plan.isAssured_iff, Violation.assure, ← Bool.and_eq_true]
  split
  · rename_i hboth
    simp [hboth]
  · rename_i hboth
    simp [hboth, ha]

theorem assure_vouched (h : p.Vouched q) {x : Violation} (ha : x.assured = false) :
    (x.assure p).Vouched (x.assure q) := by
  refine ⟨?_, fun hp => ?_⟩
  · rw [assure_eq p, assure_eq q]
  · obtain ⟨hfirst, hsecond⟩ := (assured_assure ha).mp hp
    exact (assured_assure ha).mpr ⟨hfirst.mono h, hsecond.mono h⟩

/-- The violations of a report are those that are found, in order, with the marks of their
authors. -/
theorem violations_build (engine : Engine) (results : List Result) (p : Plan)
    (reported : List Nat) (xs : List Violation) (failOn : Status) :
    (Report.build engine results (p.reportedViolations reported xs) failOn).violations =
      (Report.build engine results (xs.filter (·.touches reported)) failOn).violations.map
        (·.assure p) :=
  (map_violations_build engine results _ failOn (key_assure p)).symm

theorem violations_vouched (h : p.Vouched q) {engine : Engine} {results results' : List Result}
    {reported : List Nat} {xs : List Violation} {failOn : Status}
    (hxs : ∀ x ∈ xs, x.assured = false) :
    List.Forall₂ Violation.Vouched
      (Report.build engine results (p.reportedViolations reported xs) failOn).violations
      (Report.build engine results' (q.reportedViolations reported xs) failOn).violations := by
  rw [violations_build, violations_build, List.forall₂_map_left_iff, List.forall₂_map_right_iff]
  refine List.forall₂_same.mpr fun x hx => assure_vouched h (hxs x ?_)
  exact (List.mem_filter.mp ((violations_build_perm _ _ _ _).mem_iff.mp hx)).1

end

/-! ## Reports -/

/-- The same report again, where more of it may be excused. -/
structure Report.Vouched (r s : Report) : Prop where
  engine : s.engine = r.engine
  failOn : s.failOn = r.failOn
  results : List.Forall₂ (Result.Related Verdict.Vouched) r.results s.results
  violations : List.Forall₂ Violation.Vouched r.violations s.violations

namespace Report.Vouched

variable {r s : Report}

theorem status_eq {x y : Result} (h : x.Related Verdict.Vouched y) :
    y.verdict.status = x.verdict.status := by
  rw [h.verdict.same]

theorem counts_eq (h : r.Vouched s) : s.counts = r.counts := by
  refine List.map_congr_left fun status _ => ?_
  have hcount : s.count status = r.count status :=
    countP_of_forall₂ h.results fun x y hxy => by rw [status_eq hxy]
  rw [hcount]

theorem worst_eq (h : r.Vouched s) : s.worst = r.worst := by
  have hempty : s.violations.isEmpty = r.violations.isEmpty := by
    rw [Bool.eq_iff_iff, List.isEmpty_iff_length_eq_zero, List.isEmpty_iff_length_eq_zero,
      h.violations.length_eq]
  have hstatuses : s.results.map (·.verdict.status) = r.results.map (·.verdict.status) :=
    (map_eq_of_forall₂ h.results fun x y hxy => (status_eq hxy).symm).symm
  rw [Report.worst, Report.worst, hempty, hstatuses]

theorem unsafeResults (h : r.Vouched s) :
    List.Forall₂ (Result.Related Verdict.Vouched) r.unsafeResults s.unsafeResults := by
  refine List.rel_filter (fun x y hxy => ?_) h.results
  simp only [status_eq hxy]

/-- What is not excused in the second report is not excused in the first one. -/
theorem isBlocking (h : r.Vouched s) (hs : s.isBlocking = true) : r.isBlocking = true := by
  refine isBlocking_mono h.failOn.symm (fun y hy ha => ?_) (fun y hy ha => ?_) hs
  · obtain ⟨x, hx, hxy⟩ := exists_of_forall₂ h.violations hy
    exact ⟨x, hx, Bool.eq_false_iff.mpr fun hxa => by simp [hxy.kept hxa] at ha⟩
  · obtain ⟨x, hx, hxy⟩ := exists_of_forall₂ h.results hy
    refine ⟨x, hx, Bool.eq_false_iff.mpr fun hxa => ?_, by rw [status_eq hxy]⟩
    simp [hxy.verdict.kept hxa] at ha

end Report.Vouched

/-- The reports about a plan and about the same plan with more vouched for. -/
theorem analyze_vouched {p q : Plan} (h : p.Vouched q) (config : Config) (kb : KnowledgeBase)
    (engine : Engine) :
    Alike Report.Vouched (analyze config kb engine p).outcome
      (analyze config kb engine q).outcome := by
  rw [analyze, analyze, names_vouched h, classifyPlan_vouched h]
  simp only [Traced.outcome_bind, sequence_vouched h]
  refine .bind_same fun reported _ => .bind_same fun verdicts _ => .bind_same fun found hfound => ?_
  refine .ok ⟨rfl, rfl, ?_, ?_⟩
  · rw [results_build, results_build]
    exact results_vouched h reported found.verdicts
  · exact violations_vouched h fun x hx => (foundIn_of_sequence hfound x hx).assured

/-! ## What is excused -/

section
variable {config : Config} {kb : KnowledgeBase} {engine : Engine} {p : Plan} {r : Report}

/-- A violation of a report is made from a finding of the second pass, with the mark of its
authors. -/
theorem exists_finding_of_analyze (h : (analyze config kb engine p).outcome = .ok r)
    {x : Violation} (hx : x ∈ r.violations) :
    ∃ f y, p.Finds f ∧ f.violation.outcome = .ok y ∧ y.assure p = x := by
  obtain ⟨reported, verdicts, s, -, -, hs, rfl⟩ := analyze_eq_ok.mp h
  obtain ⟨y, hy, rfl⟩ := List.mem_map.mp ((violations_build_perm _ _ _ _).mem_iff.mp hx)
  obtain ⟨f, hf, hfy⟩ := exists_of_forall₂ (findings_of_sequence hs) (List.mem_filter.mp hy).1
  exact ⟨f, y, Plan.finds_of_mem hf, hfy, rfl⟩

theorem exists_found_of_analyze (h : (analyze config kb engine p).outcome = .ok r) {x : Violation}
    (hx : x ∈ r.violations) : ∃ y : Violation, y.FoundIn p ∧ y.assure p = x := by
  obtain ⟨f, y, hf, hfy, hyx⟩ := exists_finding_of_analyze h hx
  exact ⟨y, foundIn_of_violation hf hfy, hyx⟩

/-- A violation is excused if and only if the authors of both migrations vouch for them. -/
theorem assured_iff_of_analyze (h : (analyze config kb engine p).outcome = .ok r) {x : Violation}
    (hx : x ∈ r.violations) :
    x.assured = true ↔ p.VouchedAt x.first ∧ p.VouchedAt x.second := by
  obtain ⟨y, hy, rfl⟩ := exists_found_of_analyze h hx
  rw [assured_assure hy.assured, assure_eq p y]

theorem vouchedAt_of_mem_placed (h : ∀ m ∈ p.migrations, m.assured = true) {x : PlacedOperation}
    (hx : x ∈ p.placed) : p.VouchedAt x.ref := by
  obtain ⟨i, j, m, op, hm, -, rfl⟩ := Plan.mem_placed.mp hx
  exact ⟨i, m, rfl, hm, h m (List.mem_of_getElem? hm)⟩

theorem assured_of_mem_results {reported : List Nat} {verdicts : List (List Verdict)}
    (h : ∀ m ∈ p.migrations, m.assured = true) {x : Result}
    (hx : x ∈ p.results reported verdicts) : x.verdict.assured = true := by
  obtain ⟨i, j, m, op, v, hm, -, -, rfl⟩ := exists_of_mem_results hx
  exact (Bool.or_eq_true _ _).mpr (.inr (h m (List.mem_of_getElem? hm)))

/-- Where the authors of all migrations vouch for them, the report does not block. -/
theorem not_blocking_of_assured (h : ∀ m ∈ p.migrations, m.assured = true)
    (hr : (analyze config kb engine p).outcome = .ok r) : r.isBlocking = false := by
  have hviolations : ∀ x ∈ r.violations, x.assured = true := by
    intro x hx
    obtain ⟨y, hy, rfl⟩ := exists_found_of_analyze hr hx
    obtain ⟨⟨a, ha, hfirst⟩, ⟨b, hb, hsecond⟩, hassured⟩ := hy
    rw [assured_assure hassured, hfirst, hsecond]
    exact ⟨vouchedAt_of_mem_placed h ha, vouchedAt_of_mem_placed h hb⟩
  have hresults : ∀ x ∈ r.results, x.verdict.assured = true := by
    obtain ⟨reported, verdicts, found, -, -, -, rfl⟩ := analyze_eq_ok.mp hr
    intro x hx
    rw [results_build] at hx
    exact assured_of_mem_results h hx
  rw [Report.isBlocking, Bool.or_eq_false_iff, List.any_eq_false, List.any_eq_false]
  exact ⟨fun x hx => by simp [hviolations x hx], fun x hx => by simp [hresults x hx]⟩

end

/-- That authors vouch for migrations excuses and does nothing else. Two plans that differ in this
only have reports that say the same, and one that does not block still does not where more is
vouched for. A report does not block where everything is vouched for, and it excuses a violation if
and only if both of its migrations are. -/
theorem assured_only_excuses (config : Config) (kb : KnowledgeBase) (engine : Engine) :
    (∀ p q : Plan, p.Vouched q →
      Alike (fun r s : Report => s.engine = r.engine ∧ s.failOn = r.failOn ∧
          List.Forall₂ (Result.Related Verdict.Vouched) r.results s.results ∧
          List.Forall₂ Violation.Vouched r.violations s.violations ∧
          s.counts = r.counts ∧ s.worst = r.worst ∧
          List.Forall₂ (Result.Related Verdict.Vouched) r.unsafeResults s.unsafeResults ∧
          (s.isBlocking = true → r.isBlocking = true))
        (analyze config kb engine p).outcome (analyze config kb engine q).outcome) ∧
      ∀ (p : Plan) (r : Report), (analyze config kb engine p).outcome = .ok r →
        ((∀ m ∈ p.migrations, m.assured = true) → r.isBlocking = false) ∧
          ∀ x ∈ r.violations, x.assured = true ↔ p.VouchedAt x.first ∧ p.VouchedAt x.second := by
  refine ⟨fun p q h => (analyze_vouched h config kb engine).mono fun r s hrs => ?_,
    fun p r hr => ⟨fun h => not_blocking_of_assured h hr, fun x hx => assured_iff_of_analyze hr hx⟩⟩
  exact ⟨hrs.engine, hrs.failOn, hrs.results, hrs.violations, hrs.counts_eq, hrs.worst_eq,
    hrs.unsafeResults, hrs.isBlocking⟩

/-- A plan that validates a foreign key before it adds it, whose first migration is vouched for. -/
def keyValidatedFirst (assured : Bool) : Plan :=
  ⟨[⟨.text "validate", [.validateForeignKey (.text "orders") (.text "users") .null], false, false,
      true⟩,
    ⟨.text "add", [.addForeignKey (.text "orders") (.text "users") (.text "user_id") .null false],
      false, false, assured⟩]⟩

theorem vouched_keyValidatedFirst : (keyValidatedFirst false).Vouched (keyValidatedFirst true) :=
  .cons ⟨rfl, id⟩ (.cons ⟨rfl, nofun⟩ .nil)

/-- The violation blocks until the second migration is vouched for as well. -/
theorem assured_only_excuses_keyValidatedFirst :
    ∃ r s, (analyze {} .builtIn (Engine.ofKind .postgres) (keyValidatedFirst false)).outcome =
        .ok r ∧
      (analyze {} .builtIn (Engine.ofKind .postgres) (keyValidatedFirst true)).outcome = .ok s ∧
      List.Forall₂ Violation.Vouched r.violations s.violations ∧ s.worst = r.worst ∧
      r.violations.length = 1 ∧ r.isBlocking = true ∧ s.isBlocking = false := by
  obtain ⟨hmore, hall⟩ := assured_only_excuses {} .builtIn (Engine.ofKind .postgres)
  obtain ⟨r, hr, hlength, hblocks⟩ : ∃ r, (analyze {} .builtIn (Engine.ofKind .postgres)
      (keyValidatedFirst false)).outcome = .ok r ∧ r.violations.length = 1 ∧
        r.isBlocking = true := by
    refine ⟨_, rfl, (violations_build_perm _ _ _ _).length_eq, ?_⟩
    rw [isBlocking_build]
    decide
  obtain ⟨s, hs, -, -, -, hviolations, -, hworst, -⟩ :=
    (hmore _ _ vouched_keyValidatedFirst).exists_right hr
  have hvouched : ∀ m ∈ (keyValidatedFirst true).migrations, m.assured = true := by
    simp [keyValidatedFirst]
  exact ⟨r, s, hr, hs, hviolations, hworst, hlength, hblocks, (hall _ s hs).1 hvouched⟩

end MigrationSafety
