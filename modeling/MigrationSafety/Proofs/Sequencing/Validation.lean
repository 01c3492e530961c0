import MigrationSafety.Proofs.Sequencing.Typed

/-!
# Which validations are to be deferred

A constraint that is added without validation and its validation in the same migration make a
violation, unless the migration creates the table of the constraint. It does not matter to this
pass where in the migration it does so; the exemption of new tables in `Verdicts.lean` asks for a
creation before the operation.

* `Plan.deferredPairs`: the pairs that make a violation;
* `filter_findings_deferredRule`, `filter_deferredRule`: their violations are those that the second
  pass finds;
* `deferred_violations`: how often a constraint and its validation are reported.
-/

namespace MigrationSafety

/-! ## Pairs and their violations -/

/-- The pairs of a constraint and its validation of which the validation should have been left to a
later migration, in the order in which they are found. -/
def Plan.deferredPairs (p : Plan) : List (PlacedOperation × PlacedOperation) :=
  p.validations.flatMap fun v => (p.deferredOf v).map (·, v)

/-- The findings of the rule that validation is deferred are the pairs to be deferred. -/
theorem filter_findings_deferredRule (p : Plan) :
    p.findings.filter (·.rule == deferredRule) =
      p.deferredPairs.map fun (c, v) => .deferred c v := by
  have hother : isolationRule ≠ deferredRule ∧ validateFirstRule ≠ deferredRule := by decide
  rw [filter_findings, Plan.deferredPairs, List.map_flatMap]
  simp [hother, Function.comp_def]

/-- The violations of the rule that validation is deferred are those by the pairs to be deferred,
one by one. -/
theorem filter_deferredRule {p : Plan} {verdicts : List (List Verdict)} {s : Sequenced}
    (h : (sequence p verdicts).outcome = .ok s) :
    List.Forall₂ (fun pair x => (Finding.deferred pair.1 pair.2).violation.outcome = .ok x)
      p.deferredPairs (s.violations.filter (·.rule == deferredRule)) := by
  have hfindings := findings_of_rule h deferredRule
  rw [filter_findings_deferredRule] at hfindings
  exact List.forall₂_map_left_iff.mp hfindings

/-! ## The pairs -/

theorem mem_deferredPairs {p : Plan} {c v : PlacedOperation} :
    (c, v) ∈ p.deferredPairs ↔ c ∈ p.placed ∧ v ∈ p.placed ∧
      c.operation.addsUnvalidated = true ∧ c.operation.validatedBy v.operation = true ∧
        p.mustDefer v c = true := by
  simp only [Plan.deferredPairs, Plan.deferredOf, Plan.creationsFor, Plan.validations,
    Plan.unvalidated, List.mem_flatMap, List.mem_map, List.mem_filter, Prod.mk.injEq]
  constructor
  · rintro ⟨_, ⟨hv, -⟩, _, ⟨⟨⟨hc, hu⟩, hvalidates⟩, hdefer⟩, rfl, rfl⟩
    exact ⟨hc, hv, hu, hvalidates, hdefer⟩
  · rintro ⟨hc, hv, hu, hvalidates, hdefer⟩
    exact ⟨v, ⟨hv, isValidation_of_validatedBy hvalidates⟩, c, ⟨⟨⟨hc, hu⟩, hvalidates⟩, hdefer⟩,
      rfl, rfl⟩

/-- The pairs are listed by their validations, and those of one validation by their constraints. -/
theorem deferredPairs_sorted (p : Plan) : p.deferredPairs.Pairwise fun x y =>
    x.2.ref.before y.2.ref = true ∨ x.1.ref.before y.1.ref = true := by
  rw [Plan.deferredPairs, List.pairwise_flatMap]
  refine ⟨fun v _ => ?_, (p.placed_sorted.filter _).imp fun {v v'} hvv' x hx y hy => ?_⟩
  · rw [List.pairwise_map]
    exact (((p.placed_sorted.filter _).filter _).filter _).imp .inr
  · obtain ⟨_, -, rfl⟩ := List.mem_map.mp hx
    obtain ⟨_, -, rfl⟩ := List.mem_map.mp hy
    exact .inl hvv'

/-- Whether the table of a constraint is created in its migration. -/
theorem onCreatedTable_eq {p : Plan} {i j : Nat} {m : Migration} {op : Operation}
    (hm : p.migrations[i]? = some m) :
    p.onCreatedTable ⟨⟨i, j, m.name⟩, op⟩ = m.operations.any (·.creates op.table) := by
  rw [Bool.eq_iff_iff, Plan.onCreatedTable, List.any_eq_true]
  constructor
  · rintro ⟨⟨m', i'⟩, hm', h⟩
    rw [List.mk_mem_zipIdx_iff_getElem?] at hm'
    simp only [Bool.and_eq_true, beq_iff_eq, Int.natCast_inj] at h
    obtain ⟨rfl, h⟩ := h
    rw [hm, Option.some.injEq] at hm'
    subst hm'
    rw [← among_createdTables]
    exact h
  · intro h
    refine ⟨(m, i), List.mk_mem_zipIdx_iff_getElem?.mpr hm, ?_⟩
    rw [← among_createdTables] at h
    simp [h]

/-- A constraint that is added without validation in a migration that has not created its table
before, and a validation of it in the same migration. -/
structure Plan.ValidatesAtOnce (p : Plan) (i j k : Nat) (c v : Operation) : Prop where
  creation : p.operation? i j = some c
  validation : p.operation? i k = some v
  unvalidated : c.addsUnvalidated = true
  validates : c.validatedBy v = true
  notNew : ∀ op ∈ p.earlier i j, op.creates c.table = false

theorem creates_of_addsUnvalidated {c : Operation} (h : c.addsUnvalidated = true) (t : Value) :
    c.creates t = false := by
  cases c <;> first | rfl | cases h

theorem any_creates_of_validatesAtOnce {p : Plan} {i j k : Nat} {c v : Operation} {m : Migration}
    (h : p.ValidatesAtOnce i j k c v) (hm : p.migrations[i]? = some m) :
    m.operations.any (·.creates c.table) = (p.later i j).any (·.creates c.table) := by
  obtain ⟨m', hm', hc⟩ := Plan.operation?_eq_some.mp h.creation
  rw [hm, Option.some.injEq] at hm'
  subst hm'
  have hrow : p.grid[i]? = some m.operations := by simp [Plan.grid, hm]
  have hnone : (earlierIn p.grid i j).any (·.creates c.table) = false := by
    rw [List.any_eq_false]
    exact fun op hop => Bool.eq_false_iff.mp (h.notNew op hop)
  rw [row_eq hrow hc, List.any_append, List.any_cons, hnone, Bool.false_or,
    creates_of_addsUnvalidated h.unvalidated, Bool.false_or, Plan.later]

/-! ## How often a pair is reported -/

/-- Whether a reference is to a place. -/
def OperationRef.isAt (r : OperationRef) (i j : Nat) : Bool :=
  r.migration == i && r.index == j

/-- Whether a violation is by the operations at two places of a migration. -/
def Violation.isAbout (x : Violation) (i j k : Nat) : Bool :=
  (x.first.isAt i j && x.second.isAt i k) || (x.first.isAt i k && x.second.isAt i j)

theorem isAbout_between (rule message : String) (a b : OperationRef) (i j k : Nat) :
    (Violation.between rule message a b).isAbout i j k =
      ((a.isAt i j && b.isAt i k) || (a.isAt i k && b.isAt i j)) :=
  symmetric_between (q := fun a b => (a.isAt i j && b.isAt i k) || (a.isAt i k && b.isAt i j))
    (fun _ _ => by simp only [Bool.and_comm, Bool.or_comm]) ..

theorem not_before_of_isAt {a b : OperationRef} {i j : Nat} (ha : a.isAt i j = true)
    (hb : b.isAt i j = true) : a.before b = false := by
  simp only [OperationRef.isAt, Bool.and_eq_true, beq_iff_eq] at ha hb
  simp [OperationRef.before, ha, hb]

theorem operation?_of_isAt {p : Plan} {x : PlacedOperation} (hx : x ∈ p.placed) {i j : Nat}
    (h : x.ref.isAt i j = true) : p.operation? i j = some x.operation := by
  obtain ⟨i', j', m, op, hm, hop, rfl⟩ := Plan.mem_placed.mp hx
  simp only [OperationRef.isAt, Bool.and_eq_true, beq_iff_eq, Int.natCast_inj] at h
  obtain ⟨rfl, rfl⟩ := h
  exact Plan.operation?_eq_some.mpr ⟨m, hm, hop⟩

theorem migration_of_isAt {r : OperationRef} {i j : Nat} (h : r.isAt i j = true) :
    r.migration = i := by
  simp only [OperationRef.isAt, Bool.and_eq_true, beq_iff_eq] at h
  exact h.1

theorem exists_placed {p : Plan} {i j : Nat} {op : Operation} (h : p.operation? i j = some op) :
    ∃ x ∈ p.placed, x.ref.isAt i j = true ∧ x.operation = op := by
  obtain ⟨m, hm, hop⟩ := Plan.operation?_eq_some.mp h
  exact ⟨⟨⟨i, j, m.name⟩, op⟩, Plan.mem_placed.mpr ⟨i, j, m, op, hm, hop, rfl⟩,
    by simp [OperationRef.isAt], rfl⟩

/-- How often a property holds in a list where it cannot hold of two items. -/
theorem countP_eq_one {α : Type} {q : α → Bool} {l : List α}
    (hp : l.Pairwise fun a b => ¬ (q a = true ∧ q b = true)) (h : ∃ a ∈ l, q a = true) :
    l.countP q = 1 := by
  obtain ⟨a, ha, hqa⟩ := h
  obtain ⟨pre, post, rfl⟩ := List.append_of_mem ha
  obtain ⟨-, hpost, hpre⟩ := List.pairwise_append.mp hp
  have hpre0 : pre.countP q = 0 := List.countP_eq_zero.mpr fun b hb hqb =>
    hpre b hb a List.mem_cons_self ⟨hqb, hqa⟩
  have hpost0 : post.countP q = 0 := List.countP_eq_zero.mpr fun b hb hqb =>
    (List.pairwise_cons.mp hpost).1 b hb ⟨hqa, hqb⟩
  rw [List.countP_append, List.countP_cons_of_pos hqa, hpre0, hpost0]

/-- Whether a pair is a constraint and a validation at two places of a migration. -/
def isPairAt (i j k : Nat) (pair : PlacedOperation × PlacedOperation) : Bool :=
  pair.1.ref.isAt i j && pair.2.ref.isAt i k

/-- The table of a constraint whose migration has not created it before is created there exactly if
it is created later. -/
theorem onCreatedTable_of_isAt {p : Plan} {i j k : Nat} {c v : Operation}
    (h : p.ValidatesAtOnce i j k c v) {x : PlacedOperation} (hx : x ∈ p.placed)
    (hat : x.ref.isAt i j = true) :
    p.onCreatedTable x = (p.later i j).any (·.creates c.table) := by
  have hop := operation?_of_isAt hx hat
  rw [h.creation, Option.some.injEq] at hop
  obtain ⟨i', j', m, op, hm, -, rfl⟩ := Plan.mem_placed.mp hx
  simp only [OperationRef.isAt, Bool.and_eq_true, beq_iff_eq, Int.natCast_inj] at hat
  obtain ⟨rfl, rfl⟩ := hat
  rw [onCreatedTable_eq hm, ← any_creates_of_validatesAtOnce h hm, hop]

/-- A constraint and its validation are a pair to be deferred once, unless the table is created
later in their migration. -/
theorem countP_deferredPairs {p : Plan} {i j k : Nat} {c v : Operation}
    (h : p.ValidatesAtOnce i j k c v) : p.deferredPairs.countP (isPairAt i j k) =
      if (p.later i j).any (·.creates c.table) then 0 else 1 := by
  split
  · rename_i hcreated
    refine List.countP_eq_zero.mpr fun ⟨x, y⟩ hxy hat => ?_
    obtain ⟨hx, -, -, -, hdefer⟩ := mem_deferredPairs.mp hxy
    have hnew := onCreatedTable_of_isAt h hx ((Bool.and_eq_true _ _).mp hat).1
    simp [Plan.mustDefer, hnew, hcreated] at hdefer
  · rename_i hkept
    refine countP_eq_one ((deferredPairs_sorted p).imp ?_) ?_
    · rintro x y hxy ⟨hx, hy⟩
      obtain ⟨hx₁, hx₂⟩ := (Bool.and_eq_true _ _).mp hx
      obtain ⟨hy₁, hy₂⟩ := (Bool.and_eq_true _ _).mp hy
      rw [not_before_of_isAt hx₁ hy₁, not_before_of_isAt hx₂ hy₂] at hxy
      simp at hxy
    · obtain ⟨x, hx, hxat, hxop⟩ := exists_placed h.creation
      obtain ⟨y, hy, hyat, hyop⟩ := exists_placed h.validation
      have hu : x.operation.addsUnvalidated = true := by rw [hxop, h.unvalidated]
      have hvalidates : x.operation.validatedBy y.operation = true := by
        rw [hxop, hyop, h.validates]
      have hdefer : p.mustDefer y x = true := by
        rw [Plan.mustDefer, migration_of_isAt hxat, migration_of_isAt hyat,
          onCreatedTable_of_isAt h hx hxat]
        simpa using hkept
      exact ⟨(x, y), mem_deferredPairs.mpr ⟨hx, hy, hu, hvalidates, hdefer⟩,
        (Bool.and_eq_true _ _).mpr ⟨hxat, hyat⟩⟩

theorem countP_isAbout {p : Plan} {verdicts : List (List Verdict)} {s : Sequenced}
    (hs : (sequence p verdicts).outcome = .ok s) {i j k : Nat} {c v : Operation}
    (h : p.ValidatesAtOnce i j k c v) :
    s.violations.countP (fun x => x.rule == deferredRule && x.isAbout i j k) =
      p.deferredPairs.countP (isPairAt i j k) := by
  have hswap (x : Violation) : (x.isAbout i j k && x.rule == deferredRule) =
      (x.rule == deferredRule && x.isAbout i j k) := Bool.and_comm _ _
  rw [← funext hswap, ← List.countP_filter, countP_of_forall₂ (filter_deferredRule hs)
    (q := fun pair => (pair.1.ref.isAt i j && pair.2.ref.isAt i k) ||
      (pair.1.ref.isAt i k && pair.2.ref.isAt i j))]
  · refine List.countP_congr fun ⟨x, y⟩ hxy => ?_
    obtain ⟨hx, -, hu, -, -⟩ := mem_deferredPairs.mp hxy
    -- What stands at the place of the validation adds no constraint.
    have hno : x.ref.isAt i k = false := by
      rw [← Bool.not_eq_true]
      intro hat
      have hop := operation?_of_isAt hx hat
      rw [h.validation, Option.some.injEq] at hop
      rw [← hop] at hu
      have hv := isValidation_of_validatedBy h.validates
      cases v <;> first | cases hu | cases hv
    simp [isPairAt, hno]
  · intro pair x hx
    obtain ⟨_, _, -, -, rfl⟩ := Finding.violation_eq_ok.mp hx
    simp only [isAbout_between, Finding.left, Finding.right]

/-- A pair to be deferred is a constraint and its validation in one migration that creates the table
neither before the constraint nor after it. -/
theorem validatesAtOnce_of_mem {p : Plan} {x y : PlacedOperation} (h : (x, y) ∈ p.deferredPairs) :
    ∃ i j k, p.ValidatesAtOnce i j k x.operation y.operation ∧
      (p.later i j).any (·.creates x.operation.table) = false ∧ x.ref.isAt i j = true ∧
        y.ref.isAt i k = true := by
  obtain ⟨hx, hy, hu, hvalidates, hdefer⟩ := mem_deferredPairs.mp h
  obtain ⟨i, j, m, c, hm, hc, rfl⟩ := Plan.mem_placed.mp hx
  obtain ⟨i', k, m', v, hm', hv, rfl⟩ := Plan.mem_placed.mp hy
  simp only [Plan.mustDefer, Bool.and_eq_true, beq_iff_eq, Int.natCast_inj,
    Bool.not_eq_true'] at hdefer
  obtain ⟨rfl, hnew⟩ := hdefer
  have hrow : p.grid[i]? = some m.operations := by simp [Plan.grid, hm]
  rw [onCreatedTable_eq hm, row_eq hrow hc, List.any_append, List.any_cons, Bool.or_eq_false_iff,
    Bool.or_eq_false_iff] at hnew
  obtain ⟨hbefore, -, hafter⟩ := hnew
  have hnotNew : ∀ op ∈ p.earlier i j, op.creates c.table = false := fun op hop =>
    Bool.eq_false_iff.mpr (List.any_eq_false.mp hbefore op hop)
  exact ⟨i, j, k, ⟨Plan.operation?_eq_some.mpr ⟨m, hm, hc⟩,
    Plan.operation?_eq_some.mpr ⟨m', hm', hv⟩, hu, hvalidates, hnotNew⟩, hafter,
    by simp [OperationRef.isAt], by simp [OperationRef.isAt]⟩

/-- The second pass has a result for typed plans, and in a result every constraint that is added
without validation, in a migration that has not created its table before, is reported exactly once
with each validation of it in that migration, and nothing else is: except that none is reported
whose table the migration creates later. -/
theorem deferred_violations (p : Plan) (verdicts : List (List Verdict)) :
    (p.isTyped = true → aligned p verdicts = true →
      ∃ s, (sequence p verdicts).outcome = .ok s) ∧
    ∀ s, (sequence p verdicts).outcome = .ok s →
      (∀ i j k c v, p.ValidatesAtOnce i j k c v →
        s.violations.countP (fun x => x.rule == deferredRule && x.isAbout i j k) =
          if (p.later i j).any (·.creates c.table) then 0 else 1) ∧
      ∀ x ∈ s.violations, x.rule = deferredRule → ∃ i j k c v, p.ValidatesAtOnce i j k c v ∧
        (p.later i j).any (·.creates c.table) = false ∧ x.isAbout i j k = true := by
  refine ⟨sequence_total, fun s hs => ⟨fun i j k c v h => ?_, fun x hx hrule => ?_⟩⟩
  · rw [countP_isAbout hs h, countP_deferredPairs h]
  · have hmem : x ∈ s.violations.filter (·.rule == deferredRule) :=
      List.mem_filter.mpr ⟨hx, beq_iff_eq.mpr hrule⟩
    obtain ⟨⟨c, v⟩, hpair, hx⟩ := exists_of_forall₂ (filter_deferredRule hs) hmem
    obtain ⟨i, j, k, h, hlater, hc, hv⟩ := validatesAtOnce_of_mem hpair
    obtain ⟨_, _, -, -, rfl⟩ := Finding.violation_eq_ok.mp hx
    exact ⟨i, j, k, _, _, h, hlater, by simp [isAbout_between, hc, hv]⟩

/-- A migration that adds a foreign key without validation, validates it, and creates its table
last. -/
def tableCreatedLast : Plan :=
  ⟨[⟨.text "orders",
    [.addForeignKey (.text "orders") (.text "users") (.text "user_id") .null false,
      .validateForeignKey (.text "orders") (.text "users") .null,
      .createTable (.text "orders") false], false, false, false⟩]⟩

/-- Verdicts about such a migration. -/
def tableCreatedLastVerdicts : List (List Verdict) :=
  [[⟨.conditionallySafe, "", .splitIntoPhases, none, "add-foreign-key-not-valid", false⟩,
    ⟨.safe, "", .nothing, none, "validate-foreign-key", false⟩,
    ⟨.safe, "", .nothing, none, "create-table", false⟩]]

/-- The validation is in the migration of its constraint, and is not reported. -/
theorem deferred_missing :
    tableCreatedLast.ValidatesAtOnce 0 0 1
        (.addForeignKey (.text "orders") (.text "users") (.text "user_id") .null false)
        (.validateForeignKey (.text "orders") (.text "users") .null) ∧
      ∃ s, (sequence tableCreatedLast tableCreatedLastVerdicts).outcome = .ok s ∧
        s.violations.countP (fun x => x.rule == deferredRule && x.isAbout 0 0 1) = 0 :=
  ⟨⟨rfl, rfl, rfl, rfl, by simp [Plan.earlier, earlierIn]⟩, _, rfl, rfl⟩

end MigrationSafety
