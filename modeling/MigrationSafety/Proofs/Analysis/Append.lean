import MigrationSafety.Proofs.Analysis.Report
import MigrationSafety.Proofs.Report.Order
import MigrationSafety.Proofs.Sequencing.Append

/-!
# The report about a longer plan

Migrations are put behind those of a plan, and the longer plan is analyzed with the same settings,
which leave no migration out. What the report says about the plan alone is found in the report about
the longer plan.

* `violations_append`, `results_append`: what the longer report says about the plan;
* `analyze_append_total`: the longer plan has a report where the plan has one;
* `append_keeps_findings`: further migrations hide and change nothing.
-/

namespace MigrationSafety

section
variable {config : Config} {kb : KnowledgeBase} {engine : Engine} {p : Plan}
  {later : List Migration}

/-- Without a last applied migration all migrations are reported. -/
theorem reported_all (hstart : config.startAfter = none) (p : Plan) :
    config.reported (p.migrations.map (·.name)) = .ok (List.range p.migrations.length) := by
  rw [Config.reported, hstart, List.length_map]

/-! ## Violations -/

theorem isAssured_append {index : Int} (h : index < p.migrations.length) :
    (p.append later).isAssured index = p.isAssured index := by
  rw [Plan.isAssured, Plan.isAssured]
  refine any_migrations_append fun ⟨m, i⟩ hi => ?_
  have hne : index ≠ i := fun heq => absurd (heq ▸ h) (by omega)
  simp only [beq_false_of_ne hne, Bool.false_and]

theorem within_iff {n : Nat} {x : Violation} :
    x.within n = true ↔ x.first.migration < n ∧ x.second.migration < n := by
  simp [Violation.within]

theorem assure_append {x : Violation} (h : x.within p.migrations.length = true) :
    x.assure (p.append later) = x.assure p := by
  obtain ⟨hfirst, hsecond⟩ := within_iff.mp h
  rw [Violation.assure, Violation.assure, isAssured_append hfirst, isAssured_append hsecond]

theorem within_assure (p : Plan) (n : Nat) (x : Violation) :
    (x.assure p).within n = x.within n := by
  rw [Violation.assure]
  split <;> rfl

/-- A violation between operations of the plan is reported or not whatever runs later. -/
theorem touches_range {n k : Nat} {x : Violation} (h : x.within n = true) :
    x.touches (List.range (n + k)) = x.touches (List.range n) := by
  obtain ⟨hfirst, hsecond⟩ := within_iff.mp h
  rw [Bool.eq_iff_iff]
  simp only [Violation.touches, List.any_eq_true, List.mem_range, Bool.or_eq_true, beq_iff_eq]
  constructor
  · rintro ⟨i, -, hi⟩
    exact ⟨i, by omega, hi⟩
  · rintro ⟨i, hlt, hi⟩
    exact ⟨i, by omega, hi⟩

theorem length_append (p : Plan) (later : List Migration) :
    (p.append later).migrations.length = p.migrations.length + later.length :=
  List.length_append

/-- The violations of the longer plan that are between operations of the plan. -/
theorem reportedViolations_append (xs : List Violation) :
    ((p.append later).reportedViolations (List.range (p.append later).migrations.length) xs).filter
        (·.within p.migrations.length) =
      p.reportedViolations (List.range p.migrations.length)
        (xs.filter (·.within p.migrations.length)) := by
  have hwithin : (fun x : Violation => x.within p.migrations.length) ∘
      (fun x : Violation => x.assure (p.append later)) = (·.within p.migrations.length) :=
    funext fun x => within_assure (p.append later) p.migrations.length x
  have htouches : xs.filter (fun x => x.within p.migrations.length &&
        x.touches (List.range (p.migrations.length + later.length))) =
      xs.filter fun x => x.touches (List.range p.migrations.length) &&
        x.within p.migrations.length := by
    refine List.filter_congr fun x _ => ?_
    rw [Bool.and_comm]
    cases hx : x.within p.migrations.length with
    | true => rw [touches_range hx]
    | false => rw [Bool.and_false, Bool.and_false]
  rw [Plan.reportedViolations, Plan.reportedViolations, length_append, List.filter_map, hwithin,
    List.filter_filter, List.filter_filter, htouches]
  refine List.map_congr_left fun x hx => assure_append ?_
  exact ((Bool.and_eq_true _ _).mp (List.mem_filter.mp hx).2).2

/-- The violations reported about the longer plan that are between operations of the plan are those
reported about the plan. -/
theorem violations_append {engine : Engine} {results results' : List Result} {failOn : Status}
    {xs xs' : List Violation} (h : xs'.filter (·.within p.migrations.length) = xs) :
    ((Report.build engine results' ((p.append later).reportedViolations
        (List.range (p.append later).migrations.length) xs') failOn).violations.filter
          (·.within p.migrations.length)).Perm
      (Report.build engine results (p.reportedViolations (List.range p.migrations.length) xs)
        failOn).violations := by
  rw [filter_violations_build, reportedViolations_append, h]
  exact (violations_build_perm _ _ _ _).trans (violations_build_perm _ _ _ _).symm

/-! ## Results -/

/-- The results of migrations, where `n` is the index of the first one. -/
def resultsFrom (n : Nat) (reported : List Nat) (ms : List Migration)
    (verdicts : List (List Verdict)) : List Result :=
  ((ms.zipIdx n).zip verdicts).flatMap fun ((m, i), row) =>
    if reported.contains i then m.results i row else []

theorem migration_of_mem_resultsFrom {n : Nat} {reported : List Nat} {ms : List Migration}
    {verdicts : List (List Verdict)} {x : Result} (hx : x ∈ resultsFrom n reported ms verdicts) :
    n ≤ x.ref.migration ∧ x.ref.migration < n + ms.length := by
  obtain ⟨⟨⟨m, i⟩, row⟩, hmem, hx⟩ := List.mem_flatMap.mp hx
  have hle : n ≤ i := List.le_snd_of_mem_zipIdx (List.of_mem_zip hmem).1
  have hlt : i < ms.length + n := List.snd_lt_of_mem_zipIdx (List.of_mem_zip hmem).1
  rw [migration_of_mem_reported hx]
  omega

/-- Where all migrations of a plan are reported, it does not matter which others are. -/
theorem results_range {n : Nat} (hn : p.migrations.length ≤ n) (verdicts : List (List Verdict)) :
    p.results (List.range n) verdicts =
      p.results (List.range p.migrations.length) verdicts := by
  refine List.flatMap_congr fun ⟨⟨m, i⟩, row⟩ hmem => ?_
  have hlt : i < p.migrations.length := List.snd_lt_of_mem_zipIdx (List.of_mem_zip hmem).1
  have hlt' : i < n := Nat.lt_of_lt_of_le hlt hn
  simp only [List.contains_eq_mem, List.mem_range, hlt, hlt']

/-- The results about the longer plan that are about operations of the plan. -/
theorem results_append {verdicts others : List (List Verdict)} (ha : aligned p verdicts = true) :
    ((p.append later).results (List.range (p.append later).migrations.length)
        (verdicts ++ others)).filter (fun x : Result => x.ref.migration < p.migrations.length) =
      p.results (List.range p.migrations.length) verdicts := by
  have hlength : p.migrations.zipIdx.length = verdicts.length := by
    simpa [Plan.grid] using congrArg List.length (aligned_iff.mp ha)
  have hsplit (reported : List Nat) : (p.append later).results reported (verdicts ++ others) =
      p.results reported verdicts ++ resultsFrom p.migrations.length reported later others := by
    rw [Plan.results, Plan.append, List.zipIdx_append, List.zip_append hlength,
      List.flatMap_append, Nat.zero_add]
    rfl
  have hown : ∀ x ∈ p.results (List.range p.migrations.length) verdicts,
      decide (x.ref.migration < p.migrations.length) = true := by
    intro x hx
    obtain ⟨-, hlt⟩ := migration_of_mem_resultsFrom (n := 0) hx
    exact decide_eq_true (by omega)
  have hlater (reported : List Nat) : ∀ x ∈ resultsFrom p.migrations.length reported later others,
      ¬decide (x.ref.migration < p.migrations.length) = true := by
    intro x hx hlt
    have hle := (migration_of_mem_resultsFrom hx).1
    exact absurd (of_decide_eq_true hlt) (by omega)
  rw [hsplit, length_append, results_range (Nat.le_add_right _ _), List.filter_append,
    List.filter_eq_self.mpr hown, List.filter_eq_nil_iff.mpr (hlater _), List.append_nil]

/-! ## Reports -/

/-- The rules judge the operations of the plan as they do in the longer plan. -/
theorem classifyPlan_append {verdicts' : List (List Verdict)}
    (h : (classifyPlan config kb engine (p.append later)).outcome = .ok verdicts') :
    ∃ verdicts others, (classifyPlan config kb engine p).outcome = .ok verdicts ∧
      verdicts ++ others = verdicts' := by
  obtain ⟨verdicts, others, hverdicts, -, rfl⟩ := Traced.outcome_forEach_append h
  exact ⟨verdicts, others, hverdicts, rfl⟩

/-- The report about a plan is found in the report about the longer plan. -/
theorem analyze_append (hstart : config.startAfter = none) {r' : Report}
    (h : (analyze config kb engine (p.append later)).outcome = .ok r') :
    ∃ r, (analyze config kb engine p).outcome = .ok r ∧
      r'.results.filter (fun x : Result => x.ref.migration < p.migrations.length) = r.results ∧
      (r'.violations.filter (·.within p.migrations.length)).Perm r.violations := by
  obtain ⟨reported, verdicts', s', hreported, hverdicts', hs', rfl⟩ := analyze_eq_ok.mp h
  rw [reported_all hstart, Except.ok.injEq] at hreported
  subst hreported
  obtain ⟨verdicts, others, hverdicts, rfl⟩ := classifyPlan_append hverdicts'
  have ha := aligned_of_classifyPlan hverdicts
  obtain ⟨s, rest, hs, hrows, hviolations⟩ := sequence_append ha hs'
  refine ⟨_, analyze_eq_ok.mpr ⟨_, verdicts, s, reported_all hstart p, hverdicts, hs, rfl⟩, ?_,
    violations_append hviolations⟩
  rw [results_build, results_build, ← hrows]
  exact results_append (aligned_of_sequence hs)

/-- The longer plan has a report if the plan has one and the column types of the further migrations
can be read. -/
theorem analyze_append_total (hstart : config.startAfter = none)
    (hp : (p.append later).isTyped = true) (hread : Plan.hasReadableTypes ⟨later⟩ = true)
    {r : Report} (h : (analyze config kb engine p).outcome = .ok r) :
    ∃ r', (analyze config kb engine (p.append later)).outcome = .ok r' := by
  obtain ⟨_, verdicts, _, -, hverdicts, -⟩ := analyze_eq_ok.mp h
  obtain ⟨others, hothers⟩ : ∃ others, (classifyPlan config kb engine ⟨later⟩).outcome =
      .ok others := by
    refine classifyPlan_total ?_ hread kb engine
    exact List.all_eq_true.mpr fun m hm =>
      List.all_eq_true.mp hp m (List.mem_append_right p.migrations hm)
  have happend : (classifyPlan config kb engine (p.append later)).outcome =
      .ok (verdicts ++ others) :=
    Traced.outcome_forEach_eq_ok.mpr (List.rel_append
      (Traced.outcome_forEach_eq_ok.mp hverdicts) (Traced.outcome_forEach_eq_ok.mp hothers))
  obtain ⟨s, hs⟩ := sequence_total hp (aligned_of_classifyPlan happend)
  exact ⟨_, analyze_eq_ok.mpr ⟨_, _, s, reported_all hstart _, happend, hs, rfl⟩⟩

/-- Migrations behind those of a plan hide and change nothing. If no migration is left out, the
longer plan has the same results about the operations of the plan and all of its violations, and
each further violation is about an operation of the further migrations. -/
theorem append_keeps_findings (config : Config) (hstart : config.startAfter = none)
    (kb : KnowledgeBase) (engine : Engine) (p : Plan) (later : List Migration) :
    ((p.append later).isTyped = true → Plan.hasReadableTypes ⟨later⟩ = true →
        ∀ r, (analyze config kb engine p).outcome = .ok r →
          ∃ r', (analyze config kb engine (p.append later)).outcome = .ok r') ∧
      ∀ r', (analyze config kb engine (p.append later)).outcome = .ok r' →
        ∃ r, (analyze config kb engine p).outcome = .ok r ∧
          r'.results.filter (fun x : Result => x.ref.migration < p.migrations.length) =
            r.results ∧
          (∀ x ∈ r.violations, x ∈ r'.violations) ∧
          ∀ x ∈ r'.violations, x ∉ r.violations →
            p.migrations.length ≤ x.first.migration ∨ p.migrations.length ≤ x.second.migration := by
  refine ⟨fun hp hread r h => analyze_append_total hstart hp hread h, fun r' h => ?_⟩
  obtain ⟨r, hr, hresults, hviolations⟩ := analyze_append hstart h
  refine ⟨r, hr, hresults, fun x hx => ?_, fun x hx hnew => ?_⟩
  · exact (List.mem_filter.mp (hviolations.mem_iff.mpr hx)).1
  · by_contra hold
    have hwithin : x.within p.migrations.length = true := within_iff.mpr (by omega)
    exact hnew (hviolations.mem_iff.mp (List.mem_filter.mpr ⟨hx, hwithin⟩))

end

/-- A migration that adds a foreign key without validation and validates it at once. -/
def keyAtOnce (column : String) : Migration :=
  ⟨.text column,
    [.addForeignKey (.text "orders") (.text "users") (.text column) .null false,
      .validateForeignKey (.text "orders") (.text "users") .null], false, false, false⟩

/-- The validation of the second foreign key is about the first one as well; what is reported about
the first one stays. -/
theorem append_keeps_findings_keyAtOnce :
    ∃ r r', (analyze {} .builtIn (Engine.ofKind .postgres) ⟨[keyAtOnce "buyer"]⟩).outcome = .ok r ∧
      (analyze {} .builtIn (Engine.ofKind .postgres)
        ⟨[keyAtOnce "buyer", keyAtOnce "seller"]⟩).outcome = .ok r' ∧
      r'.results.filter (fun x : Result => x.ref.migration < 1) = r.results ∧
      (∀ x ∈ r.violations, x ∈ r'.violations) ∧
      r.violations.length = 1 ∧ r'.violations.length = 2 := by
  obtain ⟨htotal, hkeeps⟩ := append_keeps_findings {} rfl .builtIn (Engine.ofKind .postgres)
    ⟨[keyAtOnce "buyer"]⟩ [keyAtOnce "seller"]
  obtain ⟨r, hr, hlength⟩ : ∃ r, (analyze {} .builtIn (Engine.ofKind .postgres)
      ⟨[keyAtOnce "buyer"]⟩).outcome = .ok r ∧ r.violations.length = 1 :=
    ⟨_, rfl, (List.mergeSort_perm _ _).length_eq⟩
  obtain ⟨r', hr'⟩ := htotal rfl rfl r hr
  obtain ⟨r₀, hr₀, hresults, hviolations, -⟩ := hkeeps r' hr'
  rw [hr, Except.ok.injEq] at hr₀
  subst hr₀
  obtain ⟨r₁, hr₁, hlength'⟩ : ∃ r₁, (analyze {} .builtIn (Engine.ofKind .postgres)
      ⟨[keyAtOnce "buyer", keyAtOnce "seller"]⟩).outcome = .ok r₁ ∧ r₁.violations.length = 2 :=
    ⟨_, rfl, (List.mergeSort_perm _ _).length_eq⟩
  have hsame : r₁ = r' := Except.ok.inj (hr₁.symm.trans hr')
  exact ⟨r, r', hr, hr', hresults, hviolations, hlength, hsame ▸ hlength'⟩

end MigrationSafety
