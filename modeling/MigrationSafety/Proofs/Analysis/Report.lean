import MigrationSafety.Analysis
import MigrationSafety.Proofs.Rule.Foreseen
import MigrationSafety.Proofs.Sequencing.Corrected
import MigrationSafety.Proofs.Sequencing.Typed

/-!
# From operations to the report

Where an analysis has a result, each operation of a reported migration stands in the report with
the verdict of the second pass, which started from the verdict of the rules.

* `analyze_eq_ok`, `classifyPlan_total`, `analyze_total`: the parts of an analysis, and when it has
  a result;
* `cell?_classifyPlan`: the verdict of the rules at a place;
* `mem_results`, `exists_of_mem_results`: the result at a place of a reported migration;
* `verdict_of_result`: how the verdict of a result has come about;
* `results_sorted`, `results_build`: results are listed in the order of the plan;
* `results_related`: results with related verdicts;
* `isBlocking_mono`: a report with less danger blocks less;
* `status_of_not_blocking`: in a report that does not block, no such result is unsafe.
-/

namespace MigrationSafety

/-- The parts of an analysis. -/
theorem analyze_eq_ok {config : Config} {kb : KnowledgeBase} {engine : Engine} {p : Plan}
    {r : Report} : (analyze config kb engine p).outcome = .ok r ↔ ∃ reported verdicts s,
      config.reported (p.migrations.map (·.name)) = .ok reported ∧
        (classifyPlan config kb engine p).outcome = .ok verdicts ∧
        (sequence p verdicts).outcome = .ok s ∧
        Report.build engine (p.results reported s.verdicts)
          (p.reportedViolations reported s.violations) config.failOn = r := by
  simp [analyze, Traced.outcome_bind_eq_ok, -Traced.outcome_bind]

/-- The verdict of the rules at a place. -/
theorem cell?_classifyPlan {config : Config} {kb : KnowledgeBase} {engine : Engine} {p : Plan}
    {verdicts : List (List Verdict)} (h : (classifyPlan config kb engine p).outcome = .ok verdicts)
    {i j : Nat} {m : Migration} {op : Operation} (hm : p.migrations[i]? = some m)
    (hop : m.operations[j]? = some op) :
    ∃ v, cell? verdicts i j = some v ∧
      (classify Rule.table ⟨engine, m.noTransaction, config.thresholds⟩ kb op).outcome = .ok v := by
  obtain ⟨row, hi, hrow⟩ := getElem?_of_forall₂ (Traced.outcome_forEach_eq_ok.mp h) hm
  obtain ⟨v, hj, hv⟩ := getElem?_of_forall₂ (Traced.outcome_forEach_eq_ok.mp hrow) hop
  exact ⟨v, cell?_eq_some.mpr ⟨row, hi, hj⟩, hv⟩

/-- The rules give one verdict for every operation. -/
theorem aligned_of_classifyPlan {config : Config} {kb : KnowledgeBase} {engine : Engine} {p : Plan}
    {verdicts : List (List Verdict)}
    (h : (classifyPlan config kb engine p).outcome = .ok verdicts) : aligned p verdicts = true := by
  have hlengths : List.Forall₂ (fun (m : Migration) row => m.operations.length = row.length)
      p.migrations verdicts :=
    (Traced.outcome_forEach_eq_ok.mp h).imp fun m row hrow =>
      (Traced.outcome_forEach_eq_ok.mp hrow).length_eq
  rw [aligned_iff, Plan.grid, List.map_map]
  exact map_eq_of_forall₂ hlengths fun _ _ hrow => hrow

/-- Whether the column types of all operations of a plan can be read. -/
def Plan.hasReadableTypes (p : Plan) : Bool :=
  p.migrations.all (·.operations.all Operation.hasReadableTypes)

/-- The rules judge every operation of a typed plan whose column types can be read. -/
theorem classifyPlan_total {config : Config} {p : Plan} (hp : p.isTyped = true)
    (hread : p.hasReadableTypes = true) (kb : KnowledgeBase) (engine : Engine) :
    ∃ verdicts, (classifyPlan config kb engine p).outcome = .ok verdicts := by
  refine Traced.forEach_total fun m hm => Traced.forEach_total fun op hop => ?_
  exact classify_total _ kb (List.all_eq_true.mp (List.all_eq_true.mp hp m hm) op hop)
    (List.all_eq_true.mp (List.all_eq_true.mp hread m hm) op hop)

/-- The analysis of a typed plan whose column types can be read has a result, if the settings name a
migration of the plan where they name one. -/
theorem analyze_total {config : Config} {p : Plan} {reported : List Nat}
    (hreported : config.reported (p.migrations.map (·.name)) = .ok reported)
    (hp : p.isTyped = true) (hread : p.hasReadableTypes = true) (kb : KnowledgeBase)
    (engine : Engine) : ∃ r, (analyze config kb engine p).outcome = .ok r := by
  obtain ⟨verdicts, hverdicts⟩ : ∃ verdicts, (classifyPlan config kb engine p).outcome =
      .ok verdicts := classifyPlan_total hp hread kb engine
  obtain ⟨s, hs⟩ := sequence_total hp (aligned_of_classifyPlan hverdicts)
  exact ⟨_, analyze_eq_ok.mpr ⟨reported, verdicts, s, hreported, hverdicts, hs, rfl⟩⟩

/-- The result at a place of a reported migration. -/
theorem mem_results {p : Plan} {reported : List Nat} {verdicts : List (List Verdict)} {i j : Nat}
    {m : Migration} {op : Operation} {v : Verdict} (hi : i ∈ reported)
    (hm : p.migrations[i]? = some m) (hop : m.operations[j]? = some op)
    (hv : cell? verdicts i j = some v) :
    ⟨⟨i, j, m.name⟩, op, { v with assured := v.assured || m.assured }⟩ ∈
      p.results reported verdicts := by
  obtain ⟨row, hrow, hj⟩ := cell?_eq_some.mp hv
  have hrows : (p.migrations.zipIdx.zip verdicts)[i]? = some ((m, i), row) :=
    List.getElem?_zip_eq_some.mpr ⟨by simp [List.getElem?_zipIdx, hm], hrow⟩
  have hcells : ((m.placed i).zip row)[j]? = some (⟨⟨i, j, m.name⟩, op⟩, v) :=
    List.getElem?_zip_eq_some.mpr ⟨by simp [Migration.placed, List.getElem?_zipIdx, hop], hj⟩
  refine List.mem_flatMap.mpr ⟨((m, i), row), List.mem_of_getElem? hrows, ?_⟩
  show _ ∈ if reported.contains i then m.results i row else []
  rw [if_pos (List.contains_iff_mem.mpr hi)]
  exact List.mem_map.mpr ⟨_, List.mem_of_getElem? hcells, rfl⟩

/-- A result is about an operation of the plan, with the verdict at its place. -/
theorem exists_of_mem_results {p : Plan} {reported : List Nat} {verdicts : List (List Verdict)}
    {x : Result} (hx : x ∈ p.results reported verdicts) :
    ∃ i j m op v, p.migrations[i]? = some m ∧ m.operations[j]? = some op ∧
      cell? verdicts i j = some v ∧
      x = ⟨⟨i, j, m.name⟩, op, { v with assured := v.assured || m.assured }⟩ := by
  obtain ⟨⟨⟨m, i⟩, row⟩, hrows, hx⟩ := List.mem_flatMap.mp hx
  simp only at hx
  split at hx
  · obtain ⟨⟨placed, v⟩, hcells, rfl⟩ := List.mem_map.mp hx
    obtain ⟨i', hi'⟩ := List.getElem?_of_mem hrows
    obtain ⟨hindexed, hrow⟩ := List.getElem?_zip_eq_some.mp hi'
    obtain ⟨j, hj⟩ := List.getElem?_of_mem hcells
    obtain ⟨hplaced, hv⟩ := List.getElem?_zip_eq_some.mp hj
    simp only [List.getElem?_zipIdx, Nat.zero_add, Option.map_eq_some_iff, Prod.mk.injEq]
      at hindexed
    obtain ⟨m, hm, rfl, rfl⟩ := hindexed
    simp only [Migration.placed, List.getElem?_map, List.getElem?_zipIdx, Nat.zero_add,
      Option.map_eq_some_iff] at hplaced
    obtain ⟨_, ⟨op, hop, rfl⟩, rfl⟩ := hplaced
    exact ⟨_, j, m, op, v, hm, hop, cell?_eq_some.mpr ⟨row, hrow, hv⟩, rfl⟩
  · cases hx

/-! ## The order of results -/

/-- A list that is paired with another one stays in its order. -/
theorem pairwise_zip {α β : Type} {R : α → α → Prop} {as : List α} (h : as.Pairwise R)
    (bs : List β) : (as.zip bs).Pairwise fun x y => R x.1 y.1 := by
  induction h generalizing bs with
  | nil => exact .nil
  | @cons a as ha _ ih =>
    cases bs with
    | nil => exact .nil
    | cons b bs => exact .cons (fun x hx => ha x.1 (List.of_mem_zip hx).1) (ih bs)

theorem migration_of_mem_results {m : Migration} {i : Nat} {row : List Verdict} {x : Result}
    (hx : x ∈ m.results i row) : x.ref.migration = i := by
  obtain ⟨⟨placed, v⟩, hmem, rfl⟩ := List.mem_map.mp hx
  obtain ⟨_, _, -, rfl⟩ := mem_placed.mp (List.of_mem_zip hmem).1
  rfl

theorem migration_of_mem_reported {reported : List Nat} {m : Migration} {i : Nat}
    {row : List Verdict} {x : Result}
    (hx : x ∈ if reported.contains i then m.results i row else []) : x.ref.migration = i := by
  split at hx
  · exact migration_of_mem_results hx
  · cases hx

/-- Results are listed in the order in which their operations run. -/
theorem results_sorted (p : Plan) (reported : List Nat) (verdicts : List (List Verdict)) :
    (p.results reported verdicts).Pairwise fun x y => x.ref.before y.ref = true := by
  rw [Plan.results, List.pairwise_flatMap]
  refine ⟨fun ⟨⟨m, i⟩, row⟩ _ => ?_, (pairwise_zip (zipIdx_sorted _) _).imp ?_⟩
  · show (if reported.contains i then m.results i row else []).Pairwise _
    split
    · rw [Migration.results, List.pairwise_map]
      exact pairwise_zip (m.placed_sorted i) row
    · exact .nil
  · rintro ⟨⟨m, i⟩, row⟩ ⟨⟨m', i'⟩, row'⟩ hii' x hx y hy
    have hlt : (i : Int) < i' := Int.ofNat_lt.mpr hii'
    simp [OperationRef.before, migration_of_mem_reported hx, migration_of_mem_reported hy, hlt]

/-- A report leaves results in the order of the plan as they are. -/
theorem results_build (engine : Engine) (p : Plan) (reported : List Nat)
    (verdicts : List (List Verdict)) (violations : List Violation) (failOn : Status) :
    (Report.build engine (p.results reported verdicts) violations failOn).results =
      p.results reported verdicts := by
  refine List.mergeSort_of_pairwise ((results_sorted p reported verdicts).imp fun {x y} hxy => ?_)
  rw [Bool.not_eq_true', ← Bool.not_eq_true]
  intro hyx
  exact absurd (OperationRef.before_trans hxy hyx) (by simp [OperationRef.before_irrefl])

/-- The verdict of a result is what the two passes have made of the verdict of the rules. -/
theorem verdict_of_result {config : Config} {kb : KnowledgeBase} {engine : Engine} {p : Plan}
    {r : Report} (h : (analyze config kb engine p).outcome = .ok r) {x : Result}
    (hx : x ∈ r.results) :
    ∃ i j m op v known w, p.migrations[i]? = some m ∧ m.operations[j]? = some op ∧
      (classify Rule.table ⟨engine, m.noTransaction, config.thresholds⟩ kb op).outcome = .ok v ∧
      NotNullState.empty.run (p.history i j) = .ok known ∧
      known.answer (exempted v op (createdTables (p.earlier i j))) op = .ok w ∧
      x = ⟨⟨i, j, m.name⟩, op, { w with assured := w.assured || m.assured }⟩ := by
  obtain ⟨reported, verdicts, s, -, hclassify, hs, rfl⟩ := analyze_eq_ok.mp h
  rw [results_build] at hx
  obtain ⟨i, j, m, op, w, hm, hop, hw, rfl⟩ := exists_of_mem_results hx
  obtain ⟨v, hv, hclass⟩ := cell?_classifyPlan hclassify hm hop
  have hplace : p.operation? i j = some op := Plan.operation?_eq_some.mpr ⟨m, hm, hop⟩
  obtain ⟨known, hrun, hanswer⟩ := answer_of_sequence hs hplace hv hw
  exact ⟨i, j, m, op, v, known, w, hm, hop, hclass, hrun, hanswer, rfl⟩

/-! ## Related results -/

/-- Results about the same operation at the same place, with related verdicts. -/
structure Result.Related (R : Verdict → Verdict → Prop) (x y : Result) : Prop where
  ref : x.ref = y.ref
  operation : x.operation = y.operation
  verdict : R x.verdict y.verdict

/-- Related verdicts about two plans with the same operations in the same places make related
results, where the verdicts stay related when authors vouch for migrations. -/
theorem results_related {R T : Verdict → Verdict → Prop} {S : Migration → Migration → Prop}
    {p q : Plan} (hmigrations : List.Forall₂ S p.migrations q.migrations)
    (hplaced : ∀ m m' i, S m m' → m.placed i = m'.placed i)
    (hassured : ∀ m m' v w, S m m' → R v w → T { v with assured := v.assured || m.assured }
      { w with assured := w.assured || m'.assured })
    {verdicts verdicts' : List (List Verdict)}
    (h : List.Forall₂ (List.Forall₂ R) verdicts verdicts') (reported : List Nat) :
    List.Forall₂ (Result.Related T) (p.results reported verdicts)
      (q.results reported verdicts') := by
  have hindexed : List.Forall₂ (fun x y : Migration × Nat => S x.1 y.1 ∧ x.2 = y.2)
      p.migrations.zipIdx q.migrations.zipIdx := by
    rw [List.zipIdx_eq_zip_range', List.zipIdx_eq_zip_range', hmigrations.length_eq]
    exact forall₂_zip hmigrations (List.forall₂_same.mpr fun _ _ => rfl)
  refine List.rel_flatMap (forall₂_zip hindexed h) ?_
  rintro ⟨⟨m, i⟩, row⟩ ⟨⟨m', i'⟩, row'⟩ ⟨⟨hm, hi⟩, hrow⟩
  obtain rfl : i = i' := hi
  simp only
  split
  · rw [Migration.results, Migration.results, ← hplaced m m' i hm]
    refine List.rel_map ?_ (forall₂_zip (List.forall₂_same.mpr fun _ _ => rfl) hrow)
    rintro ⟨placed, v⟩ ⟨placed', w⟩ ⟨hsame, hvw⟩
    obtain rfl : placed = placed' := hsame
    exact ⟨rfl, rfl, hassured m m' v w hm hvw⟩
  · exact .nil

/-! ## Blocking reports -/

/-- The order of a report does not matter to whether it blocks. -/
theorem isBlocking_build (engine : Engine) (results : List Result) (violations : List Violation)
    (failOn : Status) : (Report.build engine results violations failOn).isBlocking =
      (violations.any (!·.assured) ||
        results.any fun x => !x.verdict.assured && failOn.rank ≤ x.verdict.status.rank) := by
  rw [Report.isBlocking, Report.build, (List.mergeSort_perm violations _).any_eq,
    (List.mergeSort_perm results _).any_eq]

/-- A report blocks if one blocks whose violations and verdicts are no more dangerous. -/
theorem isBlocking_mono {r s : Report} (hfailOn : r.failOn = s.failOn)
    (hviolations : ∀ y ∈ s.violations, y.assured = false → ∃ x ∈ r.violations, x.assured = false)
    (hresults : ∀ y ∈ s.results, y.verdict.assured = false →
      ∃ x ∈ r.results, x.verdict.assured = false ∧ y.verdict.status.rank ≤ x.verdict.status.rank)
    (h : s.isBlocking = true) : r.isBlocking = true := by
  simp only [Report.isBlocking, Bool.or_eq_true, List.any_eq_true, Bool.and_eq_true,
    Bool.not_eq_true', decide_eq_true_eq] at h ⊢
  rcases h with ⟨y, hy, ha⟩ | ⟨y, hy, ha, hrank⟩
  · exact .inl (hviolations y hy ha)
  · obtain ⟨x, hx, hxa, hle⟩ := hresults y hy ha
    exact .inr ⟨x, hx, hxa, hfailOn ▸ Nat.le_trans hrank hle⟩

/-- In a report that does not block, no result of a reported migration is unsafe unless its author
vouches for it. -/
theorem status_of_not_blocking {engine : Engine} {results : List Result}
    {violations : List Violation} {failOn : Status}
    (h : (Report.build engine results violations failOn).isBlocking = false) {x : Result}
    (hx : x ∈ results) (ha : x.verdict.assured = false) : x.verdict.status ≠ .unsafeChange := by
  intro hs
  rw [isBlocking_build, Bool.or_eq_false_iff, List.any_eq_false (l := results)] at h
  refine h.2 x hx ?_
  rw [ha, hs]
  cases failOn <;> rfl

/-- In a report that does not block, an operation of a reported migration whose author does not
vouch for it has a verdict that is not unsafe, which the two passes have made of the verdict of the
rules. Every table before it in the plan can serve as a key. -/
theorem verdict_of_not_blocking {config : Config} {kb : KnowledgeBase} {engine : Engine} {p : Plan}
    {r : Report} (h : (analyze config kb engine p).outcome = .ok r) (hr : r.isBlocking = false)
    {reported : List Nat} (hreported : config.reported (p.migrations.map (·.name)) = .ok reported)
    {i j : Nat} {m : Migration} {op : Operation} (hi : i ∈ reported)
    (hm : p.migrations[i]? = some m) (ha : m.assured = false)
    (hop : m.operations[j]? = some op) :
    ∃ v known w, (classify Rule.table ⟨engine, m.noTransaction, config.thresholds⟩ kb op).outcome =
        .ok v ∧
      NotNullState.empty.run (p.history i j) = .ok known ∧
      known.answer (exempted v op (createdTables (p.earlier i j))) op = .ok w ∧
      w.status ≠ .unsafeChange ∧ ∀ o ∈ p.history i j, o.table.isScalar = true := by
  obtain ⟨reported', verdicts, s, hreported', hclassify, hs, rfl⟩ := analyze_eq_ok.mp h
  rw [hreported, Except.ok.injEq] at hreported'
  subst hreported'
  obtain ⟨v, hv, hclass⟩ := cell?_classifyPlan hclassify hm hop
  have hplace : p.operation? i j = some op := Plan.operation?_eq_some.mpr ⟨m, hm, hop⟩
  obtain ⟨known, w, hrun, hanswer, hw⟩ := sequence_verdict hs hplace hv
  refine ⟨v, known, w, hclass, hrun, hanswer, ?_, fun o ho => ?_⟩
  · have hassured : w.assured = false := by
      rw [(corrected_of_answer hanswer).keeps.2.2, (classify_cases hclass).1]
    have hresult := mem_results hi hm hop hw
    exact status_of_not_blocking hr hresult (by simp [hassured, ha])
  · obtain ⟨ops, hops, ho⟩ := mem_of_mem_historyIn ho
    exact isScalar_table_of_sequence hs hops ho

end MigrationSafety
