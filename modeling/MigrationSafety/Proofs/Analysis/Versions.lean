import MigrationSafety.Proofs.Analysis.Report
import MigrationSafety.Proofs.Sequencing.Related

/-!
# One plan for two versions of an engine

A plan is analyzed for two versions of one engine, or for no version and one. The rules judge each
operation for both, and where the judgements differ, the first one is a danger that does not matter
for a new table. From there the two analyses are followed stage by stage: they stop for the same
reason, or make reports with the same violations and with verdicts that have the same status unless
the first one still names its danger.

* `Comparable`: two versions for which the judgements differ in that way only;
* `analyze_related`: the reports for two such versions;
* `newer_not_worse`: a newer version of an engine is never judged worse.
-/

namespace MigrationSafety

/-- The judgements about every operation for two versions are the same, or the first one is a danger
with the given status and neither matters for a new table. -/
def Comparable (danger : Status) (version version' : Option Version) : Prop :=
  ∀ (ctx : Context) (op : Operation), Alike (MayDiffer danger)
    (Rule.judgement (ctx.withVersion version) op) (Rule.judgement (ctx.withVersion version') op)

theorem comparable_newer {v w : Version} (h : w.atLeast v = true) :
    Comparable .unsafeChange (some v) (some w) :=
  fun ctx op => Rule.judgement_newer ctx op h

theorem comparable_unknown (version : Version) :
    Comparable .conditionallySafe none (some version) :=
  fun ctx op => Rule.judgement_unknown ctx op version

section
variable {danger : Status} {version version' : Option Version} {config : Config}
  {kb : KnowledgeBase} {engine : Engine} {p : Plan}

theorem classify_related (h : Comparable danger version version') (ctx : Context)
    {op : Operation} (hop : op.isTyped = true) :
    Alike (BeforePass danger) (classify Rule.table (ctx.withVersion version) kb op).outcome
      (classify Rule.table (ctx.withVersion version') kb op).outcome := by
  have hfirst := classify_judged (ctx.withVersion version) kb hop
  have hsecond := classify_judged (ctx.withVersion version') kb hop
  have hjudged : Alike (fun v b => MayDiffer danger (v.status, v.rule) b ∧ v.assured = false)
      (classify Rule.table (ctx.withVersion version) kb op).outcome
      (Rule.judgement (ctx.withVersion version') op) :=
    hfirst.trans (h ctx op) fun v a b hv hab => ⟨hv.1 ▸ hab, hv.2⟩
  exact hjudged.trans hsecond.symm fun v b w hv hw =>
    ⟨hw.1 ▸ hv.1, hv.2.trans hw.2.symm⟩

/-- The first pass for two versions. -/
theorem classifyPlan_related (h : Comparable danger version version') (hp : p.isTyped = true) :
    Alike (List.Forall₂ (List.Forall₂ (BeforePass danger)))
      (classifyPlan config kb (engine.withVersion version) p).outcome
      (classifyPlan config kb (engine.withVersion version') p).outcome := by
  refine Alike.forEach fun m hm => Alike.forEach fun op hop => ?_
  have htyped : op.isTyped = true := List.all_eq_true.mp (List.all_eq_true.mp hp m hm) op hop
  exact classify_related h ⟨engine, m.noTransaction, config.thresholds⟩ htyped

/-- The reports about a typed plan for two versions. -/
theorem analyze_related (h : Comparable danger version version') (hp : p.isTyped = true) :
    Alike (fun r s => List.Forall₂ (Result.Related (AfterPass danger)) r.results s.results ∧
        r.violations = s.violations ∧ r.failOn = s.failOn)
      (analyze config kb (engine.withVersion version) p).outcome
      (analyze config kb (engine.withVersion version') p).outcome := by
  simp only [analyze, Traced.outcome_bind, Traced.outcome_liftM, Traced.outcome_say,
    Traced.outcome_pure]
  refine .bind_same fun reported _ => ?_
  refine (classifyPlan_related h hp).bind fun verdicts verdicts' hv _ hrelated => ?_
  obtain ⟨s, s', hs, hs', hverdicts, hviolations⟩ :=
    sequence_related hp (aligned_of_classifyPlan hv) hrelated
  rw [hs, hs']
  refine .ok ⟨?_, ?_, rfl⟩
  · rw [results_build, results_build]
    refine results_related (S := Eq) (List.forall₂_same.mpr fun _ _ => rfl) ?_ ?_ hverdicts reported
    · rintro m _ i rfl
      rfl
    · rintro m _ v w rfl hvw
      exact ⟨hvw.status, by rw [hvw.assured]⟩
  · rw [hviolations]
    rfl

end

/-! ## A newer version -/

theorem rank_le_of_afterPass {v w : Verdict} (h : AfterPass .unsafeChange v w) :
    w.status.rank ≤ v.status.rank := by
  rcases h.status with hsame | hdanger
  · exact Nat.le_of_eq (congrArg Status.rank hsame.symm)
  · rw [hdanger]
    cases w.status <;> decide

/-- A report blocks if one blocks whose verdicts are no more dangerous. -/
theorem isBlocking_of_related {r s : Report} (hviolations : r.violations = s.violations)
    (hfailOn : r.failOn = s.failOn)
    (hresults : List.Forall₂ (Result.Related (AfterPass .unsafeChange)) r.results s.results)
    (h : s.isBlocking = true) : r.isBlocking = true := by
  refine isBlocking_mono hfailOn (fun y hy ha => ⟨y, hviolations ▸ hy, ha⟩) (fun y hy ha => ?_) h
  obtain ⟨x, hx, hxy⟩ := exists_of_forall₂ hresults hy
  exact ⟨x, hx, hxy.verdict.assured.trans ha, rank_le_of_afterPass hxy.verdict⟩

/-- A newer version of an engine is never judged worse: for a typed plan the analyses for a version
and for one that reaches it stop for the same reason, or each operation is no more dangerous on the
newer version, the violations are the same, and the plan blocks for the older version if it blocks
for the newer one. -/
theorem newer_not_worse {config : Config} {kb : KnowledgeBase} {engine : Engine} {p : Plan}
    {v w : Version} (hp : p.isTyped = true) (hvw : w.atLeast v = true) :
    Alike (fun r s => List.Forall₂ (Result.Related fun x y => y.status.rank ≤ x.status.rank)
          r.results s.results ∧
        r.violations = s.violations ∧ (s.isBlocking = true → r.isBlocking = true))
      (analyze config kb (engine.withVersion (some v)) p).outcome
      (analyze config kb (engine.withVersion (some w)) p).outcome := by
  refine (analyze_related (comparable_newer hvw) hp).mono fun r s ⟨hresults, hviolations, hfail⟩ => ?_
  refine ⟨hresults.imp fun x y hxy => ?_, hviolations, isBlocking_of_related hviolations hfail hresults⟩
  exact ⟨hxy.ref, hxy.operation, rank_le_of_afterPass hxy.verdict⟩

/-- A plan that adds a column with a default. -/
def defaultColumn : Plan :=
  ⟨[⟨.text "users", [.addColumnWithDefault (.text "users") (.text "active") (.text "boolean")
      (.text "true") false], false, false, false⟩]⟩

/-- The plan blocks on Postgres 10 and does not block on Postgres 11. -/
theorem newer_not_worse_defaultColumn :
    ∃ r s, (analyze {} .builtIn ((Engine.ofKind .postgres).withVersion
        (some { components := [10] })) defaultColumn).outcome = .ok r ∧
      (analyze {} .builtIn ((Engine.ofKind .postgres).withVersion
        (some { components := [11] })) defaultColumn).outcome = .ok s ∧
      List.Forall₂ (Result.Related fun x y => y.status.rank ≤ x.status.rank) r.results s.results ∧
      r.isBlocking = true ∧ s.isBlocking = false := by
  obtain ⟨r, hr, hblocks⟩ : ∃ r, (analyze {} .builtIn ((Engine.ofKind .postgres).withVersion
      (some { components := [10] })) defaultColumn).outcome = .ok r ∧ r.isBlocking = true := by
    refine ⟨_, rfl, ?_⟩
    rw [isBlocking_build]
    decide
  obtain ⟨s, hs, hfree⟩ : ∃ s, (analyze {} .builtIn ((Engine.ofKind .postgres).withVersion
      (some { components := [11] })) defaultColumn).outcome = .ok s ∧ s.isBlocking = false := by
    refine ⟨_, rfl, ?_⟩
    rw [isBlocking_build]
    decide
  have hnewer : Version.atLeast { components := [11] } { components := [10] } = true := by decide
  obtain ⟨s', hs', hresults, -⟩ := (newer_not_worse (by decide) hnewer).exists_right hr
  rw [hs, Except.ok.injEq] at hs'
  exact ⟨r, s, hr, hs, hs' ▸ hresults, hblocks, hfree⟩

end MigrationSafety
