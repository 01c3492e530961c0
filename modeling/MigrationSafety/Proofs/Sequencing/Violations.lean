import MigrationSafety.Proofs.Sequencing.Verdicts

/-!
# The violations of the second pass

The second pass finds pairs of operations that stand wrongly to each other, and words a violation
for each of them. What it finds is a list that hangs on the plan alone; the violations are one for
each item of that list, in its order.

* `Plan.mem_placed`, `Plan.placed_sorted`: the operations of a plan in their places;
* `Finding`, `Plan.findings`: what the second pass finds;
* `Finding.violation_eq_ok`: the violation that a finding makes;
* `sequence_iff`, `findings_of_sequence`, `findings_of_rule`: the violations of the second pass are
  those of its findings;
* `symmetric_of_violation`: what a violation says without regard to the order of its operations;
* `Plan.Finds`, `Plan.finds_of_mem`: what is found;
* `foundIn_of_sequence`: violations are between operations of the plan.
-/

namespace MigrationSafety

/-! ## Operations in their places -/

theorem zipIdx_sorted {α : Type} (as : List α) : as.zipIdx.Pairwise fun x y => x.2 < y.2 := by
  rw [← List.pairwise_map (f := Prod.snd), List.zipIdx_map_snd]
  exact List.pairwise_lt_range'

/-- The operations of a migration are listed in the order in which they run. -/
theorem Migration.placed_sorted (m : Migration) (i : Nat) :
    (m.placed i).Pairwise fun a b => a.ref.before b.ref = true := by
  rw [Migration.placed, List.pairwise_map]
  refine (zipIdx_sorted m.operations).imp fun {a b} hab => ?_
  simp [OperationRef.before, hab]

theorem migration_of_mem_placed {m : Migration} {i : Nat} {x : PlacedOperation}
    (hx : x ∈ m.placed i) : x.ref.migration = i := by
  obtain ⟨_, _, -, rfl⟩ := mem_placed.mp hx
  rfl

namespace Plan

theorem mem_placed {p : Plan} {x : PlacedOperation} :
    x ∈ p.placed ↔ ∃ (i j : Nat) (m : Migration) (op : Operation), p.migrations[i]? = some m ∧
      m.operations[j]? = some op ∧ x = ⟨⟨i, j, m.name⟩, op⟩ := by
  simp only [placed, List.mem_flatMap, Prod.exists, List.mk_mem_zipIdx_iff_getElem?,
    MigrationSafety.mem_placed]
  constructor
  · rintro ⟨m, i, hm, j, op, hop, rfl⟩
    exact ⟨i, j, m, op, hm, hop, rfl⟩
  · rintro ⟨i, j, m, op, hm, hop, rfl⟩
    exact ⟨m, i, hm, j, op, hop, rfl⟩

/-- An operation of a plan stands in one of its migrations. -/
theorem exists_migration_of_mem_placed {p : Plan} {x : PlacedOperation} (hx : x ∈ p.placed) :
    ∃ i < p.migrations.length, x.ref.migration = (i : Int) := by
  obtain ⟨i, j, m, op, hm, -, rfl⟩ := mem_placed.mp hx
  exact ⟨i, (List.getElem?_eq_some_iff.mp hm).1, rfl⟩

/-- The operations of a plan are listed in the order in which they run. -/
theorem placed_sorted (p : Plan) : p.placed.Pairwise fun a b => a.ref.before b.ref = true := by
  rw [placed, List.pairwise_flatMap]
  refine ⟨fun ⟨m, i⟩ _ => m.placed_sorted i, (zipIdx_sorted p.migrations).imp ?_⟩
  rintro ⟨m, i⟩ ⟨m', i'⟩ hii' x hx y hy
  obtain ⟨_, _, -, rfl⟩ := MigrationSafety.mem_placed.mp hx
  obtain ⟨_, _, -, rfl⟩ := MigrationSafety.mem_placed.mp hy
  have : (i : Int) < i' := Int.ofNat_lt.mpr hii'
  simp [OperationRef.before, this]

end Plan

/-! ## Findings -/

/-- Two operations of a plan that stand wrongly to each other. -/
inductive Finding where
  /-- A concurrent operation and another one of its migration. -/
  | isolation (c o : PlacedOperation)
  /-- A constraint, and its validation in the same migration. -/
  | deferred (c v : PlacedOperation)
  /-- A validation, and the first constraint that it could be about, which is added later. -/
  | validateFirst (v c : PlacedOperation)

namespace Finding

/-- The rule that is violated. -/
@[simp] def rule : Finding → String
  | isolation _ _ => isolationRule
  | deferred _ _ => deferredRule
  | validateFirst _ _ => validateFirstRule

/-- The operation that is named first. -/
@[simp] def left : Finding → PlacedOperation
  | isolation a _ | deferred a _ | validateFirst a _ => a

/-- The operation that is named second. -/
@[simp] def right : Finding → PlacedOperation
  | isolation _ b | deferred _ b | validateFirst _ b => b

/-- The violation that a finding makes, logged as it is found. -/
def violation : Finding → Traced Violation
  | isolation c o => isolationViolation (c, o)
  | deferred c v => deferredViolation v c
  | validateFirst v c => validateFirstViolation v c

/-- What is said about a finding, given the descriptions of its operations. -/
def words : Finding → String → String → String
  | isolation c _, concurrent, other =>
    s!"{concurrent} must be the only operation in {c.ref.name.display}; move {other} to " ++
      "another migration."
  | deferred _ _, creation, validation =>
    s!"{validation} is in the same migration as {creation}; validate in a later migration so " ++
      "the constraint is committed first."
  | validateFirst _ _, validation, creation => s!"{validation} runs before {creation}."

/-- A finding makes a violation if both operations have a description. -/
theorem violation_eq_ok {f : Finding} {x : Violation} : f.violation.outcome = .ok x ↔
    ∃ a b, f.left.operation.describe = .ok a ∧ f.right.operation.describe = .ok b ∧
      Violation.between f.rule (f.words a b) f.left.ref f.right.ref = x := by
  cases f <;>
    simp [violation, isolationViolation, deferredViolation, validateFirstViolation,
      Violation.found, left, right, rule, words, Traced.outcome_bind_eq_ok, -Traced.outcome_bind]
  all_goals grind

end Finding

/-- The violations that some findings make. -/
def Violation.AreOf (findings : List Finding) (xs : List Violation) : Prop :=
  List.Forall₂ (fun f x => f.violation.outcome = .ok x) findings xs

/-- The concurrent operations of a migration, each with the others that it is reported with. -/
def isolationFindingsIn (ops : List PlacedOperation) : List Finding :=
  (ops.filter (·.operation.concurrently)).flatMap fun c =>
    (ops.filter (isolationPair c)).map (.isolation c)

theorem mem_isolationFindingsIn {ops : List PlacedOperation} {f : Finding} :
    f ∈ isolationFindingsIn ops ↔ ∃ c ∈ ops, ∃ o ∈ ops,
      c.operation.concurrently = true ∧ isolationPair c o = true ∧ .isolation c o = f := by
  simp only [isolationFindingsIn, List.mem_flatMap, List.mem_map, List.mem_filter]
  constructor
  · rintro ⟨c, ⟨hc, hconcurrent⟩, o, ⟨ho, hpair⟩, hf⟩
    exact ⟨c, hc, o, ho, hconcurrent, hpair, hf⟩
  · rintro ⟨c, hc, o, ho, hconcurrent, hpair, hf⟩
    exact ⟨c, ⟨hc, hconcurrent⟩, o, ⟨ho, hpair⟩, hf⟩

namespace Plan

/-- What is found about isolation, migration by migration. -/
def isolationFindings (p : Plan) : List Finding :=
  p.migrations.zipIdx.flatMap fun (m, i) => isolationFindingsIn (m.placed i)

/-- The constraints that a validation could be about, in the order in which they are added. -/
def creationsFor (p : Plan) (v : PlacedOperation) : List PlacedOperation :=
  p.unvalidated.filter fun c => c.operation.validatedBy v.operation

/-- The constraints that should have been committed before a validation in their migration. -/
def deferredOf (p : Plan) (v : PlacedOperation) : List PlacedOperation :=
  (p.creationsFor v).filter (p.mustDefer v)

/-- The first of the constraints that a validation could be about, if it runs before all of
them. -/
def awaitedBy (p : Plan) (v : PlacedOperation) : List PlacedOperation :=
  if (p.creationsFor v).all (fun c => v.ref.before c.ref) then (p.creationsFor v).take 1 else []

/-- What is found about a validation. -/
def findingsAbout (p : Plan) (v : PlacedOperation) : List Finding :=
  (p.deferredOf v).map (.deferred · v) ++ (p.awaitedBy v).map (.validateFirst v)

/-- What the second pass finds, in the order in which it does. -/
def findings (p : Plan) : List Finding :=
  p.isolationFindings ++ p.validations.flatMap p.findingsAbout

end Plan

section
variable {p : Plan}

/-- The pairs of a migration are what is found in it. Two operations that are paired with each other
have different places, so a single operation needs no case of its own. -/
theorem map_isolationPairs (ops : List PlacedOperation) :
    (isolationPairs ops).map (fun pair => .isolation pair.1 pair.2) = isolationFindingsIn ops := by
  have hpairs : isolationPairs ops = (ops.filter (·.operation.concurrently)).flatMap fun c =>
      (ops.filter (isolationPair c)).map (c, ·) := by
    rw [isolationPairs]
    split
    · rename_i hshort
      match ops, hshort with
      | [], _ => rfl
      | [a], _ =>
        have ha : isolationPair a a = false := by simp [isolationPair, OperationRef.samePlace]
        cases hc : a.operation.concurrently <;> simp [hc, ha]
    · rfl
  rw [hpairs, List.map_flatMap]
  exact List.flatMap_congr fun c _ => List.map_map

theorem isolationViolations_eq_ok {xs : List Violation} :
    (isolationViolations p).outcome = .ok xs ↔ Violation.AreOf p.isolationFindings xs := by
  have hpairs : p.isolationFindings = (p.migrations.zipIdx.flatMap fun x =>
      isolationPairs (x.1.placed x.2)).map fun pair => .isolation pair.1 pair.2 := by
    rw [List.map_flatMap]
    exact List.flatMap_congr fun x _ => (map_isolationPairs _).symm
  rw [isolationViolations, Traced.outcome_forEach_eq_ok, Violation.AreOf, hpairs,
    List.forall₂_map_left_iff]
  rfl

/-- The violations by a validation are those of what is found about it. -/
theorem violationsOf_eq_ok {v : PlacedOperation} {xs : List Violation} :
    (violationsOf p v (p.creationsFor v)).outcome = .ok xs ↔
      Violation.AreOf (p.findingsAbout v) xs := by
  rw [Plan.findingsAbout, Plan.deferredOf, Plan.awaitedBy]
  generalize p.creationsFor v = creations
  have hdeferred {xs : List Violation} : (Traced.forEach (deferredViolation v)
      (creations.filter (p.mustDefer v))).outcome = .ok xs ↔
        Violation.AreOf ((creations.filter (p.mustDefer v)).map (.deferred · v)) xs := by
    rw [Traced.outcome_forEach_eq_ok, Violation.AreOf, List.forall₂_map_left_iff]
    rfl
  simp only [violationsOf, Traced.outcome_bind_eq_ok, hdeferred]
  constructor
  · rintro ⟨deferred, hdeferred, h⟩
    cases creations with
    | nil =>
      cases h
      exact .nil
    | cons c creations =>
      simp only at h
      split at h
      · rename_i hall
        obtain ⟨first, hfirst, h⟩ := Traced.outcome_bind_eq_ok.mp h
        cases h
        rw [if_pos hall]
        exact List.rel_append hdeferred (.cons hfirst .nil)
      · rename_i hall
        cases h
        rw [if_neg hall, List.map_nil, List.append_nil]
        exact hdeferred
  · intro h
    obtain ⟨deferred, rest, hdeferred, hrest, rfl⟩ := forall₂_append_left h
    refine ⟨deferred, hdeferred, ?_⟩
    cases creations with
    | nil =>
      cases hdeferred
      cases hrest
      rfl
    | cons c creations =>
      simp only
      split
      · rename_i hall
        rw [if_pos hall] at hrest
        obtain ⟨first, _, hfirst, hnil, rfl⟩ := List.forall₂_cons_left_iff.mp hrest
        cases hnil
        exact Traced.outcome_bind_eq_ok.mpr ⟨first, hfirst, rfl⟩
      · rename_i hall
        rw [if_neg hall] at hrest
        cases hrest
        rw [List.append_nil]
        rfl

theorem validationViolations_eq_ok {xs : List Violation} :
    (validationViolations p).outcome = .ok xs ↔
      Violation.AreOf (p.validations.flatMap p.findingsAbout) xs := by
  rw [Violation.AreOf, forall₂_flatMap_left, validationViolations]
  simp only [Traced.outcome_bind_eq_ok, Traced.outcome_forEach_eq_ok, Traced.outcome_pure,
    Except.ok.injEq]
  refine exists_congr fun found => and_congr_left fun _ => ?_
  exact ⟨fun h => h.imp fun _ _ => violationsOf_eq_ok.mp,
    fun h => h.imp fun _ _ => violationsOf_eq_ok.mpr⟩

/-- The second pass has a result if its two passes over the verdicts have one and its findings make
violations, which then are the violations of the result. -/
theorem sequence_iff {verdicts : List (List Verdict)} {s : Sequenced} :
    (sequence p verdicts).outcome = .ok s ↔ aligned p verdicts = true ∧ ∃ exemptedVerdicts,
      exemptRows (rowsOf p verdicts) = .ok exemptedVerdicts ∧
        refineRows .empty (rowsOf p exemptedVerdicts) = .ok s.verdicts ∧
        Violation.AreOf p.findings s.violations := by
  rw [sequence_eq_ok]
  simp only [isolationViolations_eq_ok, validationViolations_eq_ok]
  constructor
  · rintro ⟨ha, exemptedVerdicts, _, _, hexempt, hisolation, hvalidation, hrefine, hs⟩
    exact ⟨ha, exemptedVerdicts, hexempt, hrefine, hs ▸ List.rel_append hisolation hvalidation⟩
  · rintro ⟨ha, exemptedVerdicts, hexempt, hrefine, hfindings⟩
    obtain ⟨isolation, validation, hisolation, hvalidation, hs⟩ := forall₂_append_left hfindings
    exact ⟨ha, exemptedVerdicts, isolation, validation, hexempt, hisolation, hvalidation, hrefine,
      hs⟩

/-- The violations of the second pass are those of its findings, one by one. -/
theorem findings_of_sequence {verdicts : List (List Verdict)} {s : Sequenced}
    (h : (sequence p verdicts).outcome = .ok s) : Violation.AreOf p.findings s.violations := by
  obtain ⟨-, _, -, -, hfindings⟩ := sequence_iff.mp h
  exact hfindings

/-! ## What is found -/

theorem isValidation_of_validatedBy {c v : Operation} (h : c.validatedBy v = true) :
    v.isValidation = true := by
  cases c <;> cases v <;> first | rfl | cases h

/-- What stands in a finding. -/
inductive Plan.Finds (p : Plan) : Finding → Prop
  | isolation {c o : PlacedOperation} (hc : c ∈ p.placed) (ho : o ∈ p.placed)
      (hmigration : c.ref.migration = o.ref.migration)
      (hconcurrent : c.operation.concurrently = true) (hpair : isolationPair c o = true) :
      p.Finds (.isolation c o)
  | deferred {c v : PlacedOperation} (hc : c ∈ p.placed) (hv : v ∈ p.placed)
      (hunvalidated : c.operation.addsUnvalidated = true)
      (hvalidates : c.operation.validatedBy v.operation = true)
      (hdefer : p.mustDefer v c = true) : p.Finds (.deferred c v)
  | validateFirst {v c : PlacedOperation} (hv : v ∈ p.placed) (hc : c ∈ p.placed)
      (hvalidates : c.operation.validatedBy v.operation = true)
      (hbefore : v.ref.before c.ref = true) : p.Finds (.validateFirst v c)

theorem Plan.exists_of_mem_isolationFindings {f : Finding} (hf : f ∈ p.isolationFindings) :
    ∃ c o, f = .isolation c o := by
  obtain ⟨_, -, hf⟩ := List.mem_flatMap.mp hf
  obtain ⟨c, -, o, -, -, -, rfl⟩ := mem_isolationFindingsIn.mp hf
  exact ⟨c, o, rfl⟩

/-- What is found about isolation is a concurrent operation and another one of its migration. -/
theorem Plan.mem_isolationFindings {c o : PlacedOperation} :
    .isolation c o ∈ p.isolationFindings ↔ c ∈ p.placed ∧ o ∈ p.placed ∧
      c.ref.migration = o.ref.migration ∧ c.operation.concurrently = true ∧
        isolationPair c o = true := by
  constructor
  · intro hf
    obtain ⟨⟨m, i⟩, hm, hf⟩ := List.mem_flatMap.mp hf
    obtain ⟨c', hc, o', ho, hconcurrent, hpair, heq⟩ := mem_isolationFindingsIn.mp hf
    obtain ⟨rfl, rfl⟩ := Finding.isolation.inj heq
    exact ⟨List.mem_flatMap.mpr ⟨(m, i), hm, hc⟩, List.mem_flatMap.mpr ⟨(m, i), hm, ho⟩,
      (migration_of_mem_placed hc).trans (migration_of_mem_placed ho).symm, hconcurrent, hpair⟩
  · rintro ⟨hc, ho, hmigration, hconcurrent, hpair⟩
    obtain ⟨⟨m, i⟩, hm, hc⟩ := List.mem_flatMap.mp hc
    obtain ⟨⟨m', i'⟩, hm', ho⟩ := List.mem_flatMap.mp ho
    rw [migration_of_mem_placed hc, migration_of_mem_placed ho, Int.natCast_inj] at hmigration
    subst hmigration
    rw [List.mk_mem_zipIdx_iff_getElem?] at hm hm'
    rw [hm, Option.some.injEq] at hm'
    subst hm'
    exact List.mem_flatMap.mpr ⟨(m, i), List.mk_mem_zipIdx_iff_getElem?.mpr hm,
      mem_isolationFindingsIn.mpr ⟨c, hc, o, ho, hconcurrent, hpair, rfl⟩⟩

theorem Plan.mem_creationsFor {v c : PlacedOperation} : c ∈ p.creationsFor v ↔
    c ∈ p.placed ∧ c.operation.addsUnvalidated = true ∧
      c.operation.validatedBy v.operation = true := by
  simp only [creationsFor, unvalidated, List.mem_filter, and_assoc]

/-- A constraint that a validation waits for is one that it could be about, added after it. -/
theorem Plan.mem_awaitedBy {v c : PlacedOperation} (hc : c ∈ p.awaitedBy v) :
    c ∈ p.creationsFor v ∧ v.ref.before c.ref = true := by
  rw [Plan.awaitedBy] at hc
  split at hc
  · rename_i hall
    have hc := List.mem_of_mem_take hc
    exact ⟨hc, List.all_eq_true.mp hall c hc⟩
  · cases hc

theorem Plan.finds_of_mem {f : Finding} (hf : f ∈ p.findings) : p.Finds f := by
  rcases List.mem_append.mp hf with hf | hf
  · obtain ⟨c, o, rfl⟩ := Plan.exists_of_mem_isolationFindings hf
    obtain ⟨hc, ho, hmigration, hconcurrent, hpair⟩ := Plan.mem_isolationFindings.mp hf
    exact .isolation hc ho hmigration hconcurrent hpair
  · obtain ⟨v, hv, hf⟩ := List.mem_flatMap.mp hf
    obtain ⟨hv, -⟩ := List.mem_filter.mp hv
    rcases List.mem_append.mp hf with hf | hf
    · obtain ⟨c, hc, rfl⟩ := List.mem_map.mp hf
      obtain ⟨hc, hdefer⟩ := List.mem_filter.mp hc
      obtain ⟨hc, hunvalidated, hvalidates⟩ := Plan.mem_creationsFor.mp hc
      exact .deferred hc hv hunvalidated hvalidates hdefer
    · obtain ⟨c, hc, rfl⟩ := List.mem_map.mp hf
      obtain ⟨hc, hbefore⟩ := Plan.mem_awaitedBy hc
      obtain ⟨hplaced, -, hvalidates⟩ := Plan.mem_creationsFor.mp hc
      exact .validateFirst hv hplaced hvalidates hbefore

/-- What is found about a validation is between it and a constraint that it could be about. -/
theorem Plan.exists_of_mem_findingsAbout {v : PlacedOperation} {f : Finding}
    (hf : f ∈ p.findingsAbout v) :
    ∃ c ∈ p.creationsFor v, f = .deferred c v ∨ f = .validateFirst v c := by
  rcases List.mem_append.mp hf with hf | hf
  · obtain ⟨c, hc, rfl⟩ := List.mem_map.mp hf
    exact ⟨c, (List.mem_filter.mp hc).1, .inl rfl⟩
  · obtain ⟨c, hc, rfl⟩ := List.mem_map.mp hf
    exact ⟨c, (Plan.mem_awaitedBy hc).1, .inr rfl⟩

theorem Plan.Finds.left_mem {f : Finding} (hf : p.Finds f) : f.left ∈ p.placed := by
  cases hf <;> assumption

theorem Plan.Finds.right_mem {f : Finding} (hf : p.Finds f) : f.right ∈ p.placed := by
  cases hf <;> assumption

/-! ## Violations of a plan -/

theorem rule_between (rule message : String) (a b : OperationRef) :
    (Violation.between rule message a b).rule = rule := by
  rw [Violation.between]
  split <;> rfl

theorem between_of_before {a b : OperationRef} (h : a.before b = true) (rule message : String) :
    Violation.between rule message a b = ⟨rule, message, a, b, false⟩ ∧
      Violation.between rule message b a = ⟨rule, message, a, b, false⟩ := by
  rw [Violation.between, Violation.between, if_pos h, OperationRef.before_asymm h,
    if_neg Bool.false_ne_true]
  exact ⟨rfl, rfl⟩

/-- A violation names its operations in the order in which they run. What does not depend on their
order is the same before. -/
theorem symmetric_between {γ : Type} {q : OperationRef → OperationRef → γ}
    (hq : ∀ a b, q a b = q b a) (rule message : String) (a b : OperationRef) :
    q (Violation.between rule message a b).first (Violation.between rule message a b).second =
      q a b := by
  rw [Violation.between]
  split
  · exact hq b a
  · rfl

theorem symmetric_of_violation {γ : Type} {q : OperationRef → OperationRef → γ}
    (hq : ∀ a b, q a b = q b a) {f : Finding} {x : Violation} (h : f.violation.outcome = .ok x) :
    q x.first x.second = q f.left.ref f.right.ref := by
  obtain ⟨_, _, -, -, rfl⟩ := Finding.violation_eq_ok.mp h
  exact symmetric_between hq ..

theorem rule_of_violation {f : Finding} {x : Violation} (h : f.violation.outcome = .ok x) :
    x.rule = f.rule := by
  obtain ⟨_, _, -, -, rfl⟩ := Finding.violation_eq_ok.mp h
  exact rule_between ..

/-- Violations that are told from the others by what they share with their findings. -/
theorem Violation.AreOf.filter {q : Finding → Bool} {g : Violation → Bool} {fs : List Finding}
    {xs : List Violation} (h : Violation.AreOf fs xs)
    (hq : ∀ f x, f.violation.outcome = .ok x → q f = g x) :
    Violation.AreOf (fs.filter q) (xs.filter g) :=
  List.rel_filter (fun f x hfx => by simp only [hq f x hfx]) h

/-- The findings of a rule. -/
theorem filter_findings (p : Plan) (rule : String) :
    p.findings.filter (·.rule == rule) =
      (if isolationRule = rule then p.isolationFindings else []) ++
        p.validations.flatMap fun v =>
          (if deferredRule = rule then (p.deferredOf v).map (.deferred · v) else []) ++
            if validateFirstRule = rule then (p.awaitedBy v).map (.validateFirst v) else [] := by
  have hisolation : p.isolationFindings.filter (·.rule == rule) =
      if isolationRule = rule then p.isolationFindings else [] := by
    split
    · rename_i hrule
      refine List.filter_eq_self.mpr fun f hf => ?_
      obtain ⟨_, _, rfl⟩ := Plan.exists_of_mem_isolationFindings hf
      exact beq_iff_eq.mpr hrule
    · rename_i hrule
      refine List.filter_eq_nil_iff.mpr fun f hf hf' => hrule ?_
      obtain ⟨_, _, rfl⟩ := Plan.exists_of_mem_isolationFindings hf
      exact beq_iff_eq.mp hf'
  rw [Plan.findings, List.filter_append, List.filter_flatMap, hisolation]
  refine congrArg _ (List.flatMap_congr fun v _ => ?_)
  rw [Plan.findingsAbout, List.filter_append, List.filter_map, List.filter_map]
  split <;> split <;> simp_all [Function.comp_def]

/-- The violations of a rule are those of its findings, one by one. -/
theorem findings_of_rule {verdicts : List (List Verdict)} {s : Sequenced}
    (h : (sequence p verdicts).outcome = .ok s) (rule : String) :
    Violation.AreOf (p.findings.filter (·.rule == rule)) (s.violations.filter (·.rule == rule)) :=
  (findings_of_sequence h).filter fun f x hfx => by rw [rule_of_violation hfx]

/-- A violation between two operations of a plan, for which nobody has vouched yet. -/
structure Violation.FoundIn (p : Plan) (x : Violation) : Prop where
  first : ∃ a ∈ p.placed, x.first = a.ref
  second : ∃ b ∈ p.placed, x.second = b.ref
  assured : x.assured = false

theorem foundIn_between {a b : PlacedOperation} (ha : a ∈ p.placed) (hb : b ∈ p.placed)
    (rule message : String) : (Violation.between rule message a.ref b.ref).FoundIn p := by
  rw [Violation.between]
  split
  · exact ⟨⟨b, hb, rfl⟩, ⟨a, ha, rfl⟩, rfl⟩
  · exact ⟨⟨a, ha, rfl⟩, ⟨b, hb, rfl⟩, rfl⟩

/-- A finding makes a violation between operations of the plan. -/
theorem foundIn_of_violation {f : Finding} (hf : p.Finds f) {x : Violation}
    (h : f.violation.outcome = .ok x) : x.FoundIn p := by
  obtain ⟨_, _, -, -, rfl⟩ := Finding.violation_eq_ok.mp h
  exact foundIn_between hf.left_mem hf.right_mem _ _

/-- What the second pass finds is found between operations of the plan. -/
theorem foundIn_of_sequence {verdicts : List (List Verdict)} {s : Sequenced}
    (h : (sequence p verdicts).outcome = .ok s) : ∀ x ∈ s.violations, x.FoundIn p := by
  intro x hx
  obtain ⟨f, hf, hfx⟩ := exists_of_forall₂ (findings_of_sequence h) hx
  exact foundIn_of_violation (Plan.finds_of_mem hf) hfx

end

end MigrationSafety
