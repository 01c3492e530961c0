import MigrationSafety.Proofs.Alike
import MigrationSafety.Proofs.Analysis.Report
import MigrationSafety.Proofs.Report.Order

/-!
# Leaving out migrations that have been applied

The settings may name the last migration that has been applied. It and those before it are analyzed
all the same, since later verdicts hang on what they do, and are left out of the report only at the
end. So the report is the one about the whole plan without what is about these migrations alone.

* `Plan.FirstNamed`, `Config.ReportsFrom`: the first migration that is reported;
* `reported_of_reportsFrom`, `reported_unknown`: which migrations the settings report;
* `results_reportedFrom`, `reportedViolations_reportedFrom`: results and violations from a migration
  on;
* `startAfter_filters`: leaving out migrations takes their findings out of the report, and nothing
  else.
-/

namespace MigrationSafety

/-! ## Which migrations are reported -/

/-- Whether an index is that of the first migration with a name. -/
structure Plan.FirstNamed (p : Plan) (name : String) (a : Nat) : Prop where
  named : ∃ m, p.migrations[a]? = some m ∧ m.name = .text name
  first : ∀ i < a, ∀ m, p.migrations[i]? = some m → m.name ≠ .text name

/-- Whether settings report the migrations of a plan from an index on: all of them, or those after
the first one with the name of the last applied one. -/
def Config.ReportsFrom (config : Config) (p : Plan) (n : Nat) : Prop :=
  match config.startAfter with
  | none => n = 0
  | some name => ∃ a, p.FirstNamed name a ∧ n = a + 1

/-- The indexes of the migrations of a plan from one on. -/
def Plan.reportedFrom (p : Plan) (n : Nat) : List Nat :=
  (List.range p.migrations.length).drop n

theorem Plan.mem_reportedFrom {p : Plan} {n i : Nat} :
    i ∈ p.reportedFrom n ↔ n ≤ i ∧ i < p.migrations.length := by
  rw [reportedFrom, List.range_eq_range', List.drop_range', List.mem_range'_1]
  omega

theorem Plan.contains_reportedFrom {p : Plan} {n i : Nat} :
    (p.reportedFrom n).contains i = true ↔ n ≤ i ∧ i < p.migrations.length :=
  List.contains_iff_mem.trans mem_reportedFrom

section
variable {config : Config} {p : Plan} {name : String}

theorem Plan.firstNamed_iff {a : Nat} : p.FirstNamed name a ↔
    (p.migrations.map (·.name)).findIdx? (·.equal (.text name)) = some a := by
  simp only [List.findIdx?_eq_some_iff_getElem, List.length_map, List.getElem_map,
    Value.equal_text_right]
  constructor
  · rintro ⟨⟨m, hm, hname⟩, hfirst⟩
    obtain ⟨ha, rfl⟩ := List.getElem?_eq_some_iff.mp hm
    exact ⟨ha, hname, fun i hi => hfirst i hi _ (List.getElem?_eq_getElem (by omega))⟩
  · rintro ⟨ha, hname, hfirst⟩
    refine ⟨⟨_, List.getElem?_eq_getElem ha, hname⟩, fun i hi m hm => ?_⟩
    obtain ⟨_, rfl⟩ := List.getElem?_eq_some_iff.mp hm
    exact hfirst i hi

/-- A name that some migration has is that of a first one. -/
theorem Plan.exists_firstNamed (h : ∃ m ∈ p.migrations, m.name = .text name) :
    ∃ a, p.FirstNamed name a := by
  simp only [firstNamed_iff, ← Option.isSome_iff_exists, List.findIdx?_isSome, List.any_map,
    List.any_eq_true, Function.comp_apply, Value.equal_text_right]
  exact h

theorem reported_of_reportsFrom {n : Nat} (h : config.ReportsFrom p n) :
    config.reported (p.migrations.map (·.name)) = .ok (p.reportedFrom n) := by
  rw [Config.reported]
  rw [Config.ReportsFrom] at h
  cases hstart : config.startAfter with
  | none =>
    simp only [hstart] at h ⊢
    rw [h, Plan.reportedFrom, List.drop_zero, List.length_map]
  | some name =>
    simp only [hstart] at h ⊢
    obtain ⟨a, ha, rfl⟩ := h
    rw [Plan.firstNamed_iff.mp ha, List.length_map]
    rfl

/-- A last applied migration that the plan does not have is refused. -/
theorem reported_unknown (hstart : config.startAfter = some name)
    (h : ∀ m ∈ p.migrations, m.name ≠ .text name) :
    config.reported (p.migrations.map (·.name)) =
      .error (.configuration (.unknownStart name)) := by
  have hnone : (p.migrations.map (·.name)).findIdx? (·.equal (.text name)) = none := by
    simpa [List.findIdx?_eq_none_iff, ← Bool.not_eq_true, Value.equal_text_right] using h
  simp only [Config.reported, hstart, hnone]

/-- The analysis stops before it starts if the plan does not have the last applied migration. -/
theorem analyze_unknown (hstart : config.startAfter = some name)
    (h : ∀ m ∈ p.migrations, m.name ≠ .text name) (kb : KnowledgeBase) (engine : Engine) :
    (analyze config kb engine p).outcome = .error (.configuration (.unknownStart name)) := by
  rw [analyze, Traced.outcome_bind, Traced.outcome_liftM, reported_unknown hstart h]
  rfl

end

/-! ## What is reported from a migration on -/

/-- The results from a migration on are those of the whole plan that are about it or a later one. -/
theorem results_reportedFrom (p : Plan) (n : Nat) (verdicts : List (List Verdict)) :
    p.results (p.reportedFrom n) verdicts =
      (p.results (p.reportedFrom 0) verdicts).filter fun x : Result => n ≤ x.ref.migration := by
  rw [Plan.results, Plan.results, List.filter_flatMap]
  refine List.flatMap_congr fun x hmem => ?_
  obtain ⟨⟨m, i⟩, row⟩ := x
  have hi : i < p.migrations.length := List.snd_lt_of_mem_zipIdx (List.of_mem_zip hmem).1
  simp only [Plan.contains_reportedFrom.mpr ⟨Nat.zero_le i, hi⟩, if_true]
  by_cases hn : n ≤ i
  · rw [if_pos (Plan.contains_reportedFrom.mpr ⟨hn, hi⟩)]
    refine (List.filter_eq_self.mpr fun x hx => ?_).symm
    rw [migration_of_mem_results hx]
    exact decide_eq_true (Int.ofNat_le.mpr hn)
  · rw [if_neg fun h => hn (Plan.contains_reportedFrom.mp h).1]
    refine (List.filter_eq_nil_iff.mpr fun x hx => ?_).symm
    rw [migration_of_mem_results hx, decide_eq_true_eq, Int.ofNat_le]
    exact hn

/-- Whether one of the operations of a violation stands in a migration from an index on. -/
def Violation.reaches (n : Nat) (x : Violation) : Bool :=
  decide (n ≤ x.first.migration) || decide (n ≤ x.second.migration)

theorem touches_reportedFrom {p : Plan} {x : Violation} (h : x.FoundIn p) (n : Nat) :
    x.touches (p.reportedFrom n) = x.reaches n := by
  obtain ⟨⟨a, ha, hfirst⟩, ⟨b, hb, hsecond⟩, -⟩ := h
  obtain ⟨i, hi, hai⟩ := Plan.exists_migration_of_mem_placed ha
  obtain ⟨k, hk, hbk⟩ := Plan.exists_migration_of_mem_placed hb
  rw [Bool.eq_iff_iff]
  simp only [Violation.touches, Violation.reaches, List.any_eq_true, Plan.mem_reportedFrom,
    Bool.or_eq_true, beq_iff_eq, decide_eq_true_eq, hfirst, hsecond, hai, hbk, Int.ofNat_inj,
    Int.ofNat_le]
  constructor
  · rintro ⟨_, ⟨hn, -⟩, rfl | rfl⟩
    · exact .inl hn
    · exact .inr hn
  · rintro (hn | hn)
    · exact ⟨i, ⟨hn, hi⟩, .inl rfl⟩
    · exact ⟨k, ⟨hn, hk⟩, .inr rfl⟩

/-- The violations from a migration on are those of the whole plan with an operation in it or in a
later one. -/
theorem reportedViolations_reportedFrom {p : Plan} {xs : List Violation}
    (h : ∀ x ∈ xs, x.FoundIn p) (n : Nat) :
    p.reportedViolations (p.reportedFrom n) xs =
      (p.reportedViolations (p.reportedFrom 0) xs).filter (·.reaches n) := by
  have hreaches : (fun x : Violation => x.reaches n) ∘ (fun x : Violation => x.assure p) =
      (·.reaches n) := by
    funext x
    simp only [Function.comp_apply, Violation.assure]
    split <;> rfl
  rw [Plan.reportedViolations, Plan.reportedViolations, List.filter_map, hreaches,
    List.filter_filter]
  refine congrArg _ (List.filter_congr fun x hx => ?_)
  have hwhole : x.reaches 0 = true := by
    obtain ⟨⟨a, ha, hfirst⟩, -, -⟩ := h x hx
    obtain ⟨i, -, hai⟩ := Plan.exists_migration_of_mem_placed ha
    simp [Violation.reaches, hfirst, hai]
  rw [touches_reportedFrom (h x hx), touches_reportedFrom (h x hx), hwhole, Bool.and_true]

/-! ## The report -/

/-- The report from a migration on is the one about the whole plan without what is about earlier
migrations alone. -/
theorem analyze_reportedFrom {config config' : Config} {p : Plan} {n : Nat}
    (hall : config.ReportsFrom p 0) (hfrom : config'.ReportsFrom p n)
    (hthresholds : config'.thresholds = config.thresholds)
    (hfailOn : config'.failOn = config.failOn) (kb : KnowledgeBase) (engine : Engine) :
    Alike (fun r s : Report => s.engine = r.engine ∧ s.failOn = r.failOn ∧
        s.results = r.results.filter (fun x : Result => n ≤ x.ref.migration) ∧
        s.violations = r.violations.filter (·.reaches n))
      (analyze config kb engine p).outcome (analyze config' kb engine p).outcome := by
  have hclassify : classifyPlan config' kb engine p = classifyPlan config kb engine p := by
    rw [classifyPlan, classifyPlan, hthresholds]
  rw [analyze, analyze]
  simp only [Traced.outcome_bind, Traced.outcome_liftM, reported_of_reportsFrom hall,
    reported_of_reportsFrom hfrom, hclassify]
  refine Alike.bind_same fun verdicts _ => Alike.bind_same fun sequenced hs => .ok ?_
  refine ⟨rfl, hfailOn, ?_, ?_⟩
  · rw [results_build, results_build]
    exact results_reportedFrom p n sequenced.verdicts
  · rw [filter_violations_build,
      ← reportedViolations_reportedFrom (foundIn_of_sequence hs)]
    rfl

/-- To name the last applied migration only filters. The report then has the results about later
migrations and the violations with an operation in a later migration, as the report about the whole
plan has them; a name that no migration has is refused. -/
theorem startAfter_filters (config : Config) (kb : KnowledgeBase) (engine : Engine) (p : Plan)
    (name : String) :
    (∀ a, p.FirstNamed name a →
      Alike (fun r s : Report => s.engine = r.engine ∧ s.failOn = r.failOn ∧
          s.results = r.results.filter (fun x : Result => a < x.ref.migration) ∧
          s.violations = r.violations.filter fun x : Violation =>
            a < x.first.migration || a < x.second.migration)
        (analyze { config with startAfter := none } kb engine p).outcome
        (analyze { config with startAfter := some name } kb engine p).outcome) ∧
      ((∀ m ∈ p.migrations, m.name ≠ .text name) →
        (analyze { config with startAfter := some name } kb engine p).outcome =
          .error (.configuration (.unknownStart name))) := by
  refine ⟨fun a ha => ?_, fun h => analyze_unknown rfl h kb engine⟩
  have hall : { config with startAfter := none }.ReportsFrom p 0 := rfl
  have hfrom : { config with startAfter := some name }.ReportsFrom p (a + 1) := ⟨a, ha, rfl⟩
  refine (analyze_reportedFrom hall hfrom rfl rfl kb engine).mono ?_
  rintro r s ⟨hengine, hfailOn, hresults, hviolations⟩
  refine ⟨hengine, hfailOn, hresults.trans ?_, hviolations.trans ?_⟩
  · exact List.filter_congr fun x _ => by push_cast; rfl
  · exact List.filter_congr fun x _ => by rw [Violation.reaches]; push_cast; rfl

/-- A plan whose first migration checks a column and validates a foreign key, and whose second one
forbids null in the column and adds the foreign key. -/
def checkApplied : Plan :=
  ⟨[⟨.text "check",
      [.addCheckConstraint (.text "users") (.text "email IS NOT NULL") .null true,
        .validateForeignKey (.text "orders") (.text "users") .null], false, false, false⟩,
    ⟨.text "constrain",
      [.setNotNull (.text "users") (.text "email") true,
        .addForeignKey (.text "orders") (.text "users") (.text "user_id") .null false],
      false, false, false⟩]⟩

/-- With the first migration applied, its check still proves the column, and the violation between
its validation and the second migration is still reported. -/
theorem startAfter_filters_checkApplied :
    ∃ r s, (analyze {} .builtIn ⟨.postgres, some { components := [12] }, Engine.defaultTimeZone⟩
        checkApplied).outcome = .ok r ∧
      (analyze { startAfter := some "check" } .builtIn
        ⟨.postgres, some { components := [12] }, Engine.defaultTimeZone⟩
        checkApplied).outcome = .ok s ∧
      s.results = r.results.filter (fun x : Result => 0 < x.ref.migration) ∧
      r.results.map (·.verdict.rule) = ["add-check-constraint", "validate-foreign-key",
        "set-not-null-after-check", "add-foreign-key-not-valid"] ∧
      s.violations.length = 1 ∧
      (analyze { startAfter := some "constrained" } .builtIn
        ⟨.postgres, some { components := [12] }, Engine.defaultTimeZone⟩
        checkApplied).outcome = .error (.configuration (.unknownStart "constrained")) := by
  obtain ⟨r, hr, hrules⟩ : ∃ r, (analyze {} .builtIn
      ⟨.postgres, some { components := [12] }, Engine.defaultTimeZone⟩ checkApplied).outcome =
        .ok r ∧ r.results.map (·.verdict.rule) = ["add-check-constraint", "validate-foreign-key",
          "set-not-null-after-check", "add-foreign-key-not-valid"] := by
    refine ⟨_, rfl, ?_⟩
    rw [results_build]
    decide
  obtain ⟨s, hs, hlength⟩ : ∃ s, (analyze { startAfter := some "check" } .builtIn
      ⟨.postgres, some { components := [12] }, Engine.defaultTimeZone⟩ checkApplied).outcome =
        .ok s ∧ s.violations.length = 1 := ⟨_, rfl, (violations_build_perm _ _ _ _).length_eq⟩
  have hfirst : checkApplied.FirstNamed "check" 0 := ⟨⟨_, rfl, rfl⟩, nofun⟩
  obtain ⟨s', hs', -, -, hresults, -⟩ := ((startAfter_filters {} .builtIn
    ⟨.postgres, some { components := [12] }, Engine.defaultTimeZone⟩ checkApplied "check").1 0
      hfirst).exists_right hr
  rw [hs, Except.ok.injEq] at hs'
  subst hs'
  have hunknown : ∀ m ∈ checkApplied.migrations, m.name ≠ .text "constrained" := by
    simp [checkApplied]
  exact ⟨r, s, hr, hs, hresults, hrules, hlength,
    (startAfter_filters {} .builtIn _ checkApplied "constrained").2 hunknown⟩

end MigrationSafety
