import Mathlib.Algebra.BigOperators.Group.List.Basic
import Mathlib.Algebra.GroupWithZero.Nat
import Mathlib.Data.Nat.Choose.Basic
import Mathlib.Data.Set.Function
import MigrationSafety.Proofs.Sequencing.Distinct
import MigrationSafety.Proofs.Sequencing.Typed

/-!
# Which concurrent index operations do not stand alone

A concurrent operation is reported with every other operation of its migration, except that of two
concurrent ones the first is reported with the second. So every pair of operations of a migration
of which at least one is concurrent is reported, and none is reported twice.

* `length_isolationFindingsIn_cons`: an operation in front of others;
* `length_isolationFindingsIn_eq`: how many pairs a migration has;
* `Plan.Crowds`: the pairs that are to be reported;
* `isolation_bijOn`: they correspond to the violations;
* `isolation_violations`: which violations of isolation the second pass finds, and how many.
-/

namespace MigrationSafety

/-! ## How many pairs a migration has -/

theorem isolationPair_self (c : PlacedOperation) : isolationPair c c = false := by
  simp [isolationPair, OperationRef.samePlace]

/-- A concurrent operation is reported with every operation that runs after it. -/
theorem isolationPair_of_before {c o : PlacedOperation} (h : c.ref.before o.ref = true) :
    isolationPair c o = true := by
  simp [isolationPair, OperationRef.samePlace_eq, OperationRef.before_asymm h, h]

/-- An operation that runs before a concurrent one is reported with it from the side of the latter
unless it is concurrent itself. -/
theorem isolationPair_of_after {c o : PlacedOperation} (h : o.ref.before c.ref = true) :
    isolationPair c o = !o.operation.concurrently := by
  simp [isolationPair, OperationRef.samePlace_eq, h]

theorem length_isolationFindingsIn (ops : List PlacedOperation) :
    (isolationFindingsIn ops).length =
      ((ops.filter (·.operation.concurrently)).map fun c => ops.countP (isolationPair c)).sum := by
  simp only [isolationFindingsIn, List.length_flatMap, List.length_map,
    List.countP_eq_length_filter]

/-- An operation in front of others makes a pair with each of them if it is concurrent, and with
each concurrent one if it is not. -/
theorem length_isolationFindingsIn_cons {x : PlacedOperation} {ops : List PlacedOperation}
    (h : ∀ o ∈ ops, x.ref.before o.ref = true) :
    (isolationFindingsIn (x :: ops)).length = (isolationFindingsIn ops).length +
      if x.operation.concurrently then ops.length
      else ops.countP (·.operation.concurrently) := by
  have hothers : ((ops.filter (·.operation.concurrently)).map fun c =>
      (x :: ops).countP (isolationPair c)) =
        (ops.filter (·.operation.concurrently)).map fun c =>
          ops.countP (isolationPair c) + if x.operation.concurrently then 0 else 1 := by
    refine List.map_congr_left fun c hc => ?_
    rw [List.countP_cons, isolationPair_of_after (h c (List.mem_filter.mp hc).1)]
    cases x.operation.concurrently <;> rfl
  rw [length_isolationFindingsIn, length_isolationFindingsIn, List.filter_cons]
  cases hx : x.operation.concurrently with
  | true =>
    have hfirst : (x :: ops).countP (isolationPair x) = ops.length := by
      rw [List.countP_cons, isolationPair_self, List.countP_eq_length.mpr fun o ho =>
        isolationPair_of_before (h o ho)]
      rfl
    rw [if_pos rfl, List.map_cons, List.sum_cons, hfirst, hothers, hx]
    simp [Nat.add_comm]
  | false =>
    rw [if_neg Bool.false_ne_true, hothers, hx]
    simp [List.sum_map_add, List.countP_eq_length_filter]

/-- The pairs of a migration: every concurrent operation with every other one, and every two
concurrent ones. -/
theorem length_isolationFindingsIn_eq {ops : List PlacedOperation}
    (h : ops.Pairwise fun a b => a.ref.before b.ref = true) :
    (isolationFindingsIn ops).length =
      ops.countP (·.operation.concurrently) *
          (ops.length - ops.countP (·.operation.concurrently)) +
        (ops.countP (·.operation.concurrently)).choose 2 := by
  induction ops with
  | nil => rfl
  | cons x ops ih =>
    obtain ⟨hx, hops⟩ := List.pairwise_cons.mp h
    have hle : ops.countP (·.operation.concurrently) ≤ ops.length := List.countP_le_length
    rw [length_isolationFindingsIn_cons hx, ih hops, List.countP_cons, List.length_cons]
    generalize ops.countP (·.operation.concurrently) = k at hle ⊢
    generalize ops.length = n at hle ⊢
    obtain ⟨others, rfl⟩ := Nat.exists_eq_add_of_le hle
    cases x.operation.concurrently with
    | true =>
      have hrest : k + others + 1 - (k + 1) = others := by omega
      have hchoose : (k + 1).choose 2 = k + k.choose 2 := by
        rw [Nat.choose_succ_succ' k 1, Nat.choose_one_right]
      rw [if_pos rfl, if_pos rfl, hrest, hchoose, Nat.add_sub_cancel_left, Nat.succ_mul]
      omega
    | false =>
      have hrest : k + others + 1 - k = others + 1 := by omega
      rw [if_neg Bool.false_ne_true, if_neg Bool.false_ne_true, Nat.add_zero, hrest,
        Nat.add_sub_cancel_left, Nat.mul_succ]
      omega

/-- Whether both operations of a finding stand in a migration. -/
def Finding.isIn (i : Nat) (f : Finding) : Bool :=
  f.left.ref.migration == i && f.right.ref.migration == i

theorem isIn_isolationFindingsIn {i j : Nat} {m : Migration} {f : Finding}
    (hf : f ∈ isolationFindingsIn (m.placed i)) : f.isIn j = (i == j) := by
  obtain ⟨c, hc, o, ho, -, -, rfl⟩ := mem_isolationFindingsIn.mp hf
  rw [Finding.isIn, Finding.left, Finding.right, migration_of_mem_placed hc,
    migration_of_mem_placed ho, Bool.and_self, Bool.eq_iff_iff, beq_iff_eq, beq_iff_eq]
  exact Int.natCast_inj

section
variable {p : Plan}

/-- What is found about isolation in one migration. -/
theorem filter_isolationFindings {i : Nat} {m : Migration} (hm : p.migrations[i]? = some m) :
    p.isolationFindings.filter (·.isIn i) = isolationFindingsIn (m.placed i) := by
  have hnodup : p.migrations.zipIdx.Nodup :=
    (zipIdx_sorted p.migrations).imp fun {x y} hlt heq => absurd hlt (by simp [heq])
  rw [Plan.isolationFindings, List.filter_flatMap,
    flatMap_eq_of_only hnodup (List.mk_mem_zipIdx_iff_getElem?.mpr hm)]
  · exact List.filter_eq_self.mpr fun f hf =>
      (isIn_isolationFindingsIn hf).trans (beq_self_eq_true i)
  · rintro ⟨m', i'⟩ hm' hne
    refine List.filter_eq_nil_iff.mpr fun f hf hin => hne ?_
    obtain rfl : i' = i := beq_iff_eq.mp ((isIn_isolationFindingsIn hf).symm.trans hin)
    rw [List.mk_mem_zipIdx_iff_getElem?, hm, Option.some.injEq] at hm'
    rw [hm']

/-! ## Pairs and their violations -/

/-- Two operations of a migration in the order in which they run, at least one of which builds or
drops an index concurrently. -/
def Plan.Crowds (p : Plan) (i j k : Nat) : Prop :=
  j < k ∧ ∃ a b, p.operation? i j = some a ∧ p.operation? i k = some b ∧
    (a.concurrently = true ∨ b.concurrently = true)

/-- The places of two operations of a migration. -/
def placesIn (i j k : Nat) : (Int × Int) × Int × Int :=
  ((i, j), i, k)

/-- The places of the two operations of a violation. -/
def Violation.places (x : Violation) : (Int × Int) × Int × Int :=
  ((x.first.migration, x.first.index), x.second.migration, x.second.index)

/-- Whether both operations of a violation stand in a migration. -/
def Violation.isIn (i : Nat) (x : Violation) : Bool :=
  x.first.migration == i && x.second.migration == i

theorem isIn_of_violation {f : Finding} {x : Violation} (h : f.violation.outcome = .ok x)
    (i : Nat) : f.isIn i = x.isIn i :=
  (symmetric_of_violation (q := fun a b => a.migration == i && b.migration == i)
    (fun _ _ => Bool.and_comm _ _) h).symm

/-- A violation names the operation that runs first before the other one. -/
theorem places_between {i j k : Nat} (h : j < k) (a b : Value) (rule message : String) :
    (Violation.between rule message ⟨i, j, a⟩ ⟨i, k, b⟩).places = placesIn i j k ∧
      (Violation.between rule message ⟨i, k, b⟩ ⟨i, j, a⟩).places = placesIn i j k := by
  have hbefore : OperationRef.before ⟨i, j, a⟩ ⟨i, k, b⟩ = true := by
    simp [OperationRef.before, h]
  obtain ⟨hleft, hright⟩ := between_of_before hbefore rule message
  rw [hleft, hright]
  exact ⟨rfl, rfl⟩

/-- What is found about isolation is such a pair. -/
theorem crowds_of_violation {f : Finding} (hf : f ∈ p.isolationFindings) {x : Violation}
    (h : f.violation.outcome = .ok x) : ∃ i j k, p.Crowds i j k ∧ placesIn i j k = x.places := by
  obtain ⟨c, o, rfl⟩ := Plan.exists_of_mem_isolationFindings hf
  obtain ⟨hc, ho, hmigration, hconcurrent, hpair⟩ := Plan.mem_isolationFindings.mp hf
  obtain ⟨i, j, m, a, hm, ha, rfl⟩ := Plan.mem_placed.mp hc
  obtain ⟨i', k, m', b, hm', hb, rfl⟩ := Plan.mem_placed.mp ho
  obtain rfl : i = i' := Int.natCast_inj.mp hmigration
  have ha := Plan.operation?_eq_some.mpr ⟨m, hm, ha⟩
  have hb := Plan.operation?_eq_some.mpr ⟨m', hm', hb⟩
  obtain ⟨_, _, -, -, rfl⟩ := Finding.violation_eq_ok.mp h
  rcases Nat.lt_trichotomy j k with hlt | rfl | hlt
  · exact ⟨i, j, k, ⟨hlt, a, b, ha, hb, .inl hconcurrent⟩, (places_between hlt ..).1.symm⟩
  · simp [isolationPair, OperationRef.samePlace] at hpair
  · exact ⟨i, k, j, ⟨hlt, b, a, hb, ha, .inr hconcurrent⟩, (places_between hlt ..).2.symm⟩

/-- Such a pair is found, from the side of its first concurrent operation. -/
theorem exists_finding_of_crowds {i j k : Nat} (h : p.Crowds i j k) :
    ∃ f ∈ p.isolationFindings, ∀ x, f.violation.outcome = .ok x → x.places = placesIn i j k := by
  obtain ⟨hlt, a, b, ha, hb, hconcurrent⟩ := h
  obtain ⟨m, hm, ha⟩ := Plan.operation?_eq_some.mp ha
  obtain ⟨m', hm', hb⟩ := Plan.operation?_eq_some.mp hb
  have hfirst : ⟨⟨i, j, m.name⟩, a⟩ ∈ p.placed := Plan.mem_placed.mpr ⟨i, j, m, a, hm, ha, rfl⟩
  have hsecond : ⟨⟨i, k, m'.name⟩, b⟩ ∈ p.placed :=
    Plan.mem_placed.mpr ⟨i, k, m', b, hm', hb, rfl⟩
  have hbefore : OperationRef.before ⟨i, j, m.name⟩ ⟨i, k, m'.name⟩ = true := by
    simp [OperationRef.before, hlt]
  cases hca : a.concurrently with
  | true =>
    refine ⟨_, Plan.mem_isolationFindings.mpr
      ⟨hfirst, hsecond, rfl, hca, isolationPair_of_before hbefore⟩, fun x hx => ?_⟩
    obtain ⟨_, _, -, -, rfl⟩ := Finding.violation_eq_ok.mp hx
    exact (places_between hlt ..).1
  | false =>
    have hcb : b.concurrently = true := hconcurrent.resolve_left (Bool.eq_false_iff.mp hca)
    have hpair : isolationPair ⟨⟨i, k, m'.name⟩, b⟩ ⟨⟨i, j, m.name⟩, a⟩ = true := by
      rw [isolationPair_of_after hbefore, hca]
      rfl
    refine ⟨_, Plan.mem_isolationFindings.mpr ⟨hsecond, hfirst, rfl, hcb, hpair⟩, fun x hx => ?_⟩
    obtain ⟨_, _, -, -, rfl⟩ := Finding.violation_eq_ok.mp hx
    exact (places_between hlt ..).2

/-! ## The second pass -/

variable {verdicts : List (List Verdict)} {s : Sequenced}

theorem isolation_of_sequence (h : (sequence p verdicts).outcome = .ok s) :
    Violation.AreOf p.isolationFindings (s.violations.filter (·.rule == isolationRule)) := by
  have hother : deferredRule ≠ isolationRule ∧ validateFirstRule ≠ isolationRule := by decide
  have hfilter : p.findings.filter (·.rule == isolationRule) = p.isolationFindings := by
    rw [filter_findings]
    simp [hother]
  have hfindings := findings_of_rule h isolationRule
  rwa [hfilter] at hfindings

/-- The violations of isolation correspond to the pairs. -/
theorem isolation_bijOn (h : (sequence p verdicts).outcome = .ok s) :
    Set.BijOn Violation.places {x | x ∈ s.violations ∧ x.rule = isolationRule}
      {t | ∃ i j k, p.Crowds i j k ∧ placesIn i j k = t} := by
  have hfound := isolation_of_sequence h
  refine ⟨fun x ⟨hx, hrule⟩ => ?_, fun x ⟨hx, hrule⟩ y ⟨hy, hrule'⟩ hplaces => ?_, ?_⟩
  · obtain ⟨f, hf, hfx⟩ := exists_of_forall₂ hfound
      (List.mem_filter.mpr ⟨hx, beq_iff_eq.mpr hrule⟩)
    exact crowds_of_violation hf hfx
  · -- Violations of one rule at the same places have one key.
    refine List.inj_on_of_nodup_map (keys_distinct h) hx hy ?_
    obtain ⟨hfirst, hsecond⟩ := Prod.mk.inj hplaces
    rw [Violation.key, Violation.key, hrule, hrule']
    simp only [OperationRef.key, hfirst, hsecond]
  · rintro t ⟨i, j, k, hcrowds, rfl⟩
    obtain ⟨f, hf, hplaces⟩ := exists_finding_of_crowds hcrowds
    obtain ⟨x, hx, hfx⟩ := exists_of_forall₂ hfound.flip hf
    obtain ⟨hx, hrule⟩ := List.mem_filter.mp hx
    exact ⟨x, ⟨hx, beq_iff_eq.mp hrule⟩, hplaces x hfx⟩

/-- How many violations of isolation a migration contributes. -/
theorem countP_isIn (h : (sequence p verdicts).outcome = .ok s) {i : Nat} {m : Migration}
    (hm : p.migrations[i]? = some m) :
    s.violations.countP (fun x => x.rule == isolationRule && x.isIn i) =
      m.operations.countP (·.concurrently) *
          (m.operations.length - m.operations.countP (·.concurrently)) +
        (m.operations.countP (·.concurrently)).choose 2 := by
  have hin : Violation.AreOf (isolationFindingsIn (m.placed i))
      ((s.violations.filter (·.rule == isolationRule)).filter (·.isIn i)) := by
    rw [← filter_isolationFindings hm]
    exact (isolation_of_sequence h).filter fun f x hfx => isIn_of_violation hfx i
  have hlength : (m.placed i).length = m.operations.length := by simp [Migration.placed]
  have hcount : (m.placed i).countP (·.operation.concurrently) =
      m.operations.countP (·.concurrently) := by
    rw [← List.zipIdx_map_fst 0 m.operations, List.countP_map, Migration.placed, List.countP_map]
    rfl
  simp only [Bool.and_comm (_ == isolationRule)]
  rw [← List.countP_filter, List.countP_eq_length_filter, ← hin.length_eq,
    length_isolationFindingsIn_eq (m.placed_sorted i), hlength, hcount]

/-- A migration has no pair if it has one operation only, or no concurrent one. -/
theorem alone_iff (h : (sequence p verdicts).outcome = .ok s) :
    (∀ x ∈ s.violations, x.rule ≠ isolationRule) ↔
      ∀ m ∈ p.migrations, (∃ op ∈ m.operations, op.concurrently = true) →
        m.operations.length = 1 := by
  constructor
  · intro hnone m hm hconcurrent
    obtain ⟨i, hi⟩ := List.getElem?_of_mem hm
    have hzero : s.violations.countP (fun x => x.rule == isolationRule && x.isIn i) = 0 :=
      List.countP_eq_zero.mpr fun x hx hrule => by simp [hnone x hx] at hrule
    have hle : m.operations.countP (·.concurrently) ≤ m.operations.length := List.countP_le_length
    have hpos : 0 < m.operations.countP (·.concurrently) := List.countP_pos_iff.mpr hconcurrent
    rw [countP_isIn h hi, Nat.add_eq_zero_iff, Nat.mul_eq_zero, Nat.choose_eq_zero_iff] at hzero
    omega
  · intro halone x hx hrule
    obtain ⟨i, j, k, ⟨hlt, a, b, ha, hb, hconcurrent⟩, -⟩ := (isolation_bijOn h).mapsTo ⟨hx, hrule⟩
    obtain ⟨m, hm, ha⟩ := Plan.operation?_eq_some.mp ha
    obtain ⟨m', hm', hb⟩ := Plan.operation?_eq_some.mp hb
    rw [hm, Option.some.injEq] at hm'
    subst hm'
    have hlength : m.operations.length = 1 := by
      refine halone m (List.mem_of_getElem? hm) ?_
      rcases hconcurrent with hca | hcb
      · exact ⟨a, List.mem_of_getElem? ha, hca⟩
      · exact ⟨b, List.mem_of_getElem? hb, hcb⟩
    obtain ⟨hk, -⟩ := List.getElem?_eq_some_iff.mp hb
    omega

end

/-- The violations of isolation correspond to the pairs of operations of one migration of which at
least one is concurrent, and none is reported twice. So of `n` operations of which `k` are
concurrent, a migration contributes one for every concurrent and other one and one for every two
concurrent ones; and there is none at all exactly if every migration with a concurrent operation has
no other one. -/
theorem isolation_violations (p : Plan) (verdicts : List (List Verdict)) :
    (p.isTyped = true → aligned p verdicts = true →
      ∃ s, (sequence p verdicts).outcome = .ok s) ∧
    ∀ s, (sequence p verdicts).outcome = .ok s →
      (s.violations.filter (·.rule == isolationRule)).Nodup ∧
      Set.BijOn Violation.places {x | x ∈ s.violations ∧ x.rule = isolationRule}
        {t | ∃ i j k, p.Crowds i j k ∧ placesIn i j k = t} ∧
      (∀ i m n k, p.migrations[i]? = some m → m.operations.length = n →
        m.operations.countP (·.concurrently) = k →
          s.violations.countP (fun x => x.rule == isolationRule && x.isIn i) =
            k * (n - k) + k * (k - 1) / 2) ∧
      ((∀ x ∈ s.violations, x.rule ≠ isolationRule) ↔
        ∀ m ∈ p.migrations, (∃ op ∈ m.operations, op.concurrently = true) →
          m.operations.length = 1) := by
  refine ⟨sequence_total, fun s hs => ⟨(keys_distinct hs).of_map.filter _, isolation_bijOn hs, ?_,
    alone_iff hs⟩⟩
  rintro i m n k hm rfl rfl
  rw [countP_isIn hs hm, Nat.choose_two_right]

/-- A plan that builds and drops indexes concurrently, among other operations and alone. -/
def indexesAmongOthers : Plan :=
  ⟨[⟨.text "indexes",
    [.createTable (.text "users") false,
      .createIndex (.text "orders") [.text "user_id"] .null false true,
      .removeIndex (.text "orders") (.text "by_date") [] true,
      .createIndex (.text "users") [.text "email"] .null false false], false, false, false⟩,
    ⟨.text "alone",
      [.createIndex (.text "users") [.text "name"] .null false true], true, false, false⟩]⟩

/-- A verdict about every operation of the plan. -/
def safeIndexes : List (List Verdict) :=
  let safe : Verdict := ⟨.safe, "", .nothing, none, "create-index-concurrently", false⟩
  [List.replicate 4 safe, [safe]]

theorem isolation_violations_indexesAmongOthers :
    ∃ s, (sequence indexesAmongOthers safeIndexes).outcome = .ok s ∧
      s.violations.countP (fun x => x.rule == isolationRule && x.isIn 0) = 5 ∧
      s.violations.countP (fun x => x.rule == isolationRule && x.isIn 1) = 0 ∧
      (∃ x ∈ s.violations, x.places = placesIn 0 1 2) ∧
      ∃ x ∈ s.violations, x.rule = isolationRule := by
  obtain ⟨htotal, hfound⟩ := isolation_violations indexesAmongOthers safeIndexes
  obtain ⟨s, hs⟩ := htotal (by decide) rfl
  obtain ⟨-, hbij, hcount, -⟩ := hfound s hs
  obtain ⟨x, ⟨hx, hrule⟩, hplaces⟩ :=
    hbij.surjOn ⟨0, 1, 2, ⟨by decide, _, _, rfl, rfl, .inl rfl⟩, rfl⟩
  exact ⟨s, hs, hcount 0 _ 4 2 rfl rfl rfl, hcount 1 _ 1 1 rfl rfl rfl, ⟨x, hx, hplaces⟩,
    x, hx, hrule⟩

end MigrationSafety
