import MigrationSafety.Proofs.Sequencing.Violations

/-!
# The second pass over a longer plan

Migrations are put behind those of a plan. The second pass over the longer plan goes over the
operations of the plan first, and what it finds there does not hang on what runs later: the verdicts
are corrected from the operations before, and of the violations those between operations of the plan
stay as they are. A validation may be about more constraints in the longer plan; the further ones
are all added after it, so they never take away a violation.

* `Plan.append`: a plan with further migrations behind it;
* `Violation.within`: the violations between operations that run before a migration;
* `findings_append`: what is found in the longer plan;
* `sequence_append`: the second pass over the longer plan.
-/

namespace MigrationSafety

/-- A plan with further migrations behind it. -/
def Plan.append (p : Plan) (later : List Migration) : Plan :=
  ⟨p.migrations ++ later⟩

/-- The operations of migrations with their places, where `n` is the index of the first one. -/
def placedFrom (n : Nat) (ms : List Migration) : List PlacedOperation :=
  (ms.zipIdx n).flatMap fun (m, i) => m.placed i

/-- Whether both operations of a violation stand in migrations before an index. -/
def Violation.within (n : Nat) (x : Violation) : Bool :=
  decide (x.first.migration < n) && decide (x.second.migration < n)

/-- Whether both operations of a finding stand in migrations before an index. -/
def Finding.within (n : Nat) (f : Finding) : Bool :=
  decide (f.left.ref.migration < n) && decide (f.right.ref.migration < n)

theorem Finding.within_iff {n : Nat} {f : Finding} :
    f.within n = true ↔ f.left.ref.migration < n ∧ f.right.ref.migration < n := by
  rw [within, Bool.and_eq_true, decide_eq_true_eq, decide_eq_true_eq]

theorem within_of_violation {f : Finding} {x : Violation} (h : f.violation.outcome = .ok x)
    (n : Nat) : f.within n = x.within n :=
  (symmetric_of_violation (q := fun a b => decide (a.migration < n) && decide (b.migration < n))
    (fun _ _ => Bool.and_comm _ _) h).symm

section
variable {p : Plan} {later : List Migration}

/-! ## Places -/

theorem placed_append (p : Plan) (later : List Migration) :
    (p.append later).placed = p.placed ++ placedFrom p.migrations.length later := by
  rw [Plan.placed, Plan.append, List.zipIdx_append, List.flatMap_append, Nat.zero_add]
  rfl

theorem migration_lt_of_mem_placed {x : PlacedOperation} (hx : x ∈ p.placed) :
    x.ref.migration < p.migrations.length := by
  obtain ⟨i, hi, hxi⟩ := Plan.exists_migration_of_mem_placed hx
  rw [hxi]
  exact Int.ofNat_lt.mpr hi

theorem le_migration_of_mem_placedFrom {n : Nat} {x : PlacedOperation}
    (hx : x ∈ placedFrom n later) : (n : Int) ≤ x.ref.migration := by
  obtain ⟨⟨m, i⟩, hm, hx⟩ := List.mem_flatMap.mp hx
  obtain ⟨_, _, -, rfl⟩ := mem_placed.mp hx
  exact Int.ofNat_le.mpr (List.le_snd_of_mem_zipIdx hm)

/-- What runs later runs after every operation of the plan. -/
theorem before_of_mem_placedFrom {x y : PlacedOperation} (hx : x ∈ p.placed)
    (hy : y ∈ placedFrom p.migrations.length later) : x.ref.before y.ref = true := by
  have hlt := migration_lt_of_mem_placed hx
  have hle := le_migration_of_mem_placedFrom hy
  have hxy : x.ref.migration < y.ref.migration := by omega
  simp [OperationRef.before, hxy]

/-- What holds of no migration behind those of the plan is asked of the plan alone. -/
theorem any_migrations_append {q : Migration × Nat → Bool}
    (hq : ∀ x, p.migrations.length ≤ x.2 → q x = false) :
    (p.append later).migrations.zipIdx.any q = p.migrations.zipIdx.any q := by
  have hlater : (later.zipIdx (0 + p.migrations.length)).any q = false := by
    refine List.any_eq_false.mpr fun x hx => ?_
    have hle := List.le_snd_of_mem_zipIdx hx
    rw [hq x (by omega)]
    exact Bool.false_ne_true
  rw [Plan.append, List.zipIdx_append, List.any_append, hlater, Bool.or_false]

/-! ## Findings -/

theorem within_of_mem_findings {f : Finding} (hf : f ∈ p.findings) :
    f.within p.migrations.length = true := by
  have hfinds := Plan.finds_of_mem hf
  exact Finding.within_iff.mpr ⟨migration_lt_of_mem_placed hfinds.left_mem,
    migration_lt_of_mem_placed hfinds.right_mem⟩

/-- Isolation is asked of one migration at a time. -/
theorem isolationFindings_append (p : Plan) (later : List Migration) : ∃ rest,
    (p.append later).isolationFindings = p.isolationFindings ++ rest ∧
      ∀ f ∈ rest, f.within p.migrations.length = false := by
  rw [Plan.isolationFindings, Plan.append, List.zipIdx_append, List.flatMap_append]
  refine ⟨_, rfl, fun f hf => ?_⟩
  obtain ⟨⟨m, i⟩, hm, hf⟩ := List.mem_flatMap.mp hf
  obtain ⟨c, hc, o, -, -, -, rfl⟩ := mem_isolationFindingsIn.mp hf
  have hi : p.migrations.length ≤ i := by
    have hle := List.le_snd_of_mem_zipIdx hm
    omega
  have hlater : ¬c.ref.migration < p.migrations.length := by
    rw [migration_of_mem_placed hc]
    omega
  exact Bool.and_eq_false_iff.mpr (.inl (decide_eq_false hlater))

theorem onCreatedTable_append {x : PlacedOperation} (hx : x ∈ p.placed) :
    (p.append later).onCreatedTable x = p.onCreatedTable x := by
  have hlt := migration_lt_of_mem_placed hx
  rw [Plan.onCreatedTable, Plan.onCreatedTable]
  refine any_migrations_append fun ⟨m, i⟩ hi => ?_
  have hne : x.ref.migration ≠ i := fun heq => absurd (heq ▸ hlt) (by omega)
  simp only [beq_false_of_ne hne, Bool.false_and]

/-- A validation may be about further constraints, all of them in later migrations. -/
theorem creationsFor_append (p : Plan) (later : List Migration) (v : PlacedOperation) : ∃ ds,
    (p.append later).creationsFor v = p.creationsFor v ++ ds ∧
      ∀ d ∈ ds, d ∈ placedFrom p.migrations.length later := by
  rw [Plan.creationsFor, Plan.unvalidated, placed_append, List.filter_append, List.filter_append]
  exact ⟨_, rfl, fun d hd => (List.mem_filter.mp (List.mem_filter.mp hd).1).1⟩

theorem deferredOf_append {v : PlacedOperation} (hv : v ∈ p.placed) :
    (p.append later).deferredOf v = p.deferredOf v := by
  obtain ⟨ds, hcreations, hds⟩ := creationsFor_append p later v
  have hlater : ds.filter ((p.append later).mustDefer v) = [] := by
    refine List.filter_eq_nil_iff.mpr fun d hd hmust => ?_
    have hlt := migration_lt_of_mem_placed hv
    have hle := le_migration_of_mem_placedFrom (hds d hd)
    simp only [Plan.mustDefer, Bool.and_eq_true, beq_iff_eq] at hmust
    omega
  rw [Plan.deferredOf, hcreations, List.filter_append, hlater, List.append_nil]
  refine List.filter_congr fun c hc => ?_
  rw [Plan.mustDefer, Plan.mustDefer, onCreatedTable_append (Plan.mem_creationsFor.mp hc).1]

/-- Further constraints do not keep a validation from running before all of them. Only where there
is none in the plan can it wait for one of them. -/
theorem awaitedBy_append (later : List Migration) {v : PlacedOperation} (hv : v ∈ p.placed) :
    (p.append later).awaitedBy v = p.awaitedBy v ∨
      p.awaitedBy v = [] ∧ ∀ c ∈ (p.append later).awaitedBy v,
        c ∈ placedFrom p.migrations.length later := by
  obtain ⟨ds, hcreations, hds⟩ := creationsFor_append p later v
  have hafter : ds.all (fun d => v.ref.before d.ref) = true :=
    List.all_eq_true.mpr fun d hd => before_of_mem_placedFrom hv (hds d hd)
  rw [Plan.awaitedBy, Plan.awaitedBy, hcreations, List.all_append, hafter, Bool.and_true]
  cases p.creationsFor v with
  | nil =>
    refine .inr ⟨rfl, fun c hc => ?_⟩
    rw [List.all_nil, if_pos rfl, List.nil_append] at hc
    exact hds c (List.mem_of_mem_take hc)
  | cons c cs => exact .inl rfl

/-- What is found about a validation of the plan. -/
theorem findingsAbout_append {v : PlacedOperation} (hv : v ∈ p.validations) :
    ((p.append later).findingsAbout v).filter (·.within p.migrations.length) =
      p.findingsAbout v := by
  have hplaced : v ∈ p.placed := (List.mem_filter.mp hv).1
  have hown : ∀ f ∈ p.findingsAbout v, f.within p.migrations.length = true := fun f hf =>
    within_of_mem_findings (List.mem_append_right _ (List.mem_flatMap.mpr ⟨v, hv, hf⟩))
  rcases awaitedBy_append later hplaced with hsame | ⟨hnone, hlater⟩
  · rw [Plan.findingsAbout, deferredOf_append hplaced, hsame]
    exact List.filter_eq_self.mpr hown
  · have hothers : (((p.append later).awaitedBy v).map (Finding.validateFirst v)).filter
        (·.within p.migrations.length) = [] := by
      refine List.filter_eq_nil_iff.mpr fun f hf hwithin => ?_
      obtain ⟨c, hc, rfl⟩ := List.mem_map.mp hf
      have hle := le_migration_of_mem_placedFrom (hlater c hc)
      have hlt : c.ref.migration < p.migrations.length := (Finding.within_iff.mp hwithin).2
      omega
    rw [Plan.findingsAbout, hnone, List.map_nil, List.append_nil] at hown
    rw [Plan.findingsAbout, deferredOf_append hplaced, List.filter_append,
      List.filter_eq_self.mpr hown, hothers, Plan.findingsAbout, hnone, List.map_nil]

/-- What is found in the longer plan between operations of the plan is what is found in the plan. -/
theorem findings_append :
    (p.append later).findings.filter (·.within p.migrations.length) = p.findings := by
  obtain ⟨rest, hisolation, hrest⟩ := isolationFindings_append p later
  have hvalidations : (p.append later).validations = p.validations ++
      (placedFrom p.migrations.length later).filter (·.operation.isValidation) := by
    rw [Plan.validations, placed_append, List.filter_append]
    rfl
  have hlater : ((placedFrom p.migrations.length later).filter (·.operation.isValidation)).flatMap
      (fun v => ((p.append later).findingsAbout v).filter (·.within p.migrations.length)) = [] := by
    refine List.flatMap_eq_nil_iff.mpr fun v hv => List.filter_eq_nil_iff.mpr fun f hf hwithin => ?_
    have hle := le_migration_of_mem_placedFrom (List.mem_filter.mp hv).1
    obtain ⟨hleft, hright⟩ := Finding.within_iff.mp hwithin
    obtain ⟨c, -, rfl | rfl⟩ := Plan.exists_of_mem_findingsAbout hf
    · exact absurd hright (Int.not_lt.mpr hle)
    · exact absurd hleft (Int.not_lt.mpr hle)
  rw [Plan.findings, hisolation, hvalidations, List.flatMap_append, List.filter_append,
    List.filter_append, List.filter_append, List.filter_flatMap, List.filter_flatMap, hlater,
    List.filter_eq_nil_iff.mpr fun f hf => Bool.eq_false_iff.mp (hrest f hf),
    List.filter_eq_self.mpr fun f hf => within_of_mem_findings (List.mem_append_left _ hf),
    List.flatMap_congr fun v hv => findingsAbout_append hv, List.append_nil, List.append_nil]
  rfl

/-! ## Verdicts -/

theorem refineRows_append {s : NotNullState} {rows rows' : List (List (Operation × Verdict))}
    {out : List (List Verdict)} (h : refineRows s (rows ++ rows') = .ok out) :
    ∃ own rest, refineRows s rows = .ok own ∧ own ++ rest = out := by
  induction rows generalizing s out with
  | nil => exact ⟨[], out, rfl, rfl⟩
  | cons row rows ih =>
    obtain ⟨t, row', out', hrow, hrows, rfl⟩ := refineRows_cons_eq_ok.mp h
    obtain ⟨own, rest, hown, rfl⟩ := ih hrows
    exact ⟨row' :: own, rest, refineRows_cons_eq_ok.mpr ⟨t, row', own, hrow, hown, rfl⟩, rfl⟩

theorem rowsOf_append {verdicts others : List (List Verdict)} (ha : aligned p verdicts = true) :
    rowsOf (p.append later) (verdicts ++ others) =
      rowsOf p verdicts ++ rowsOf ⟨later⟩ others := by
  have hlength : p.migrations.length = verdicts.length := by
    simpa [Plan.grid] using congrArg List.length (aligned_iff.mp ha)
  rw [rowsOf, Plan.append, List.zip_append hlength, List.map_append]
  rfl

/-- The second pass over the longer plan corrects the verdicts about the plan as it does without the
further migrations, and finds the same violations between operations of the plan. -/
theorem sequence_append {verdicts others : List (List Verdict)} {s' : Sequenced}
    (ha : aligned p verdicts = true)
    (h : (sequence (p.append later) (verdicts ++ others)).outcome = .ok s') :
    ∃ s rest, (sequence p verdicts).outcome = .ok s ∧ s.verdicts ++ rest = s'.verdicts ∧
      s'.violations.filter (·.within p.migrations.length) = s.violations := by
  obtain ⟨-, exempted', hexempt, hrefine, hfindings⟩ := sequence_iff.mp h
  rw [rowsOf_append ha] at hexempt
  obtain ⟨own, rest, hown, -, rfl⟩ := forall₂_append_left (mapM_eq_ok.mp hexempt)
  have hexemptOwn : exemptRows (rowsOf p verdicts) = .ok own := mapM_eq_ok.mpr hown
  rw [rowsOf_append (aligned_of_exemptRows ha hexemptOwn)] at hrefine
  obtain ⟨refined, others', hrefined, hverdicts⟩ := refineRows_append hrefine
  have hwithin : Violation.AreOf p.findings
      (s'.violations.filter (·.within p.migrations.length)) := by
    rw [← findings_append]
    exact hfindings.filter fun f x hfx => within_of_violation hfx _
  exact ⟨⟨refined, _⟩, others', sequence_iff.mpr ⟨ha, own, hexemptOwn, hrefined, hwithin⟩,
    hverdicts, rfl⟩

end

end MigrationSafety
