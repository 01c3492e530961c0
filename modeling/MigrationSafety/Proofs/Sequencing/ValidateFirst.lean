import MigrationSafety.Proofs.Sequencing.Distinct
import MigrationSafety.Proofs.Sequencing.Typed

/-!
# Which validations run before their constraints

A validation may be about several constraints of a plan, some of which are added before it and some
after it. It is reported if there is one and all of them come after it, and then once, with the
first of them. It does not matter whether the table of a constraint is new, nor in which migration
it is added.

* `Operation.Validates`: which constraint a validation is about;
* `Plan.Awaits`, `Plan.RunsFirst`: the validations that are to be reported;
* `filter_involves`: what is found about one of them;
* `validateFirst_violations`: which violations the second pass reports, and how often.
-/

namespace MigrationSafety

/-! ## Which constraint a validation is about -/

namespace Operation

/-- What a validation is about: a foreign key of its table with its name, if both have one, and with
its target otherwise, or a check of its table with its name. -/
inductive Validates : Operation → Operation → Prop
  | keyByName {table toTable column name vTable vToTable vName : Value} {validate : Bool}
      (htable : table.equal vTable = true) (hname : name.truthy = true)
      (hvName : vName.truthy = true) (hnames : name.equal vName = true) :
      Validates (.validateForeignKey vTable vToTable vName)
        (.addForeignKey table toTable column name validate)
  | keyByTarget {table toTable column name vTable vToTable vName : Value} {validate : Bool}
      (htable : table.equal vTable = true) (hnames : name.truthy = false ∨ vName.truthy = false)
      (htarget : vToTable ≠ .null) (htargets : toTable.equal vToTable = true) :
      Validates (.validateForeignKey vTable vToTable vName)
        (.addForeignKey table toTable column name validate)
  | check {table expression name vTable vName : Value} {validate : Bool}
      (htable : table.equal vTable = true)
      (hname : (constraintNameOf table expression name).equal vName = true) :
      Validates (.validateCheckConstraint vTable vName)
        (.addCheckConstraint table expression name validate)

theorem foreignKeyMatches_iff {table toTable name vTable vToTable vName : Value} :
    foreignKeyMatches table toTable name vTable vToTable vName = true ↔
      table.equal vTable = true ∧
        (name.truthy = true ∧ vName.truthy = true ∧ name.equal vName = true ∨
          (name.truthy = false ∨ vName.truthy = false) ∧ vToTable ≠ .null ∧
            toTable.equal vToTable = true) := by
  cases hname : name.truthy <;> cases hvName : vName.truthy <;> cases vToTable <;>
    simp [foreignKeyMatches, hname, hvName]

theorem validates_iff {v c : Operation} : v.Validates c ↔ c.validatedBy v = true := by
  constructor
  · rintro (⟨htable, hname, hvName, hnames⟩ | ⟨htable, hnames, htarget, htargets⟩ | ⟨htable, hname⟩)
    · exact foreignKeyMatches_iff.mpr ⟨htable, .inl ⟨hname, hvName, hnames⟩⟩
    · exact foreignKeyMatches_iff.mpr ⟨htable, .inr ⟨hnames, htarget, htargets⟩⟩
    · exact (Bool.and_eq_true _ _).mpr ⟨htable, hname⟩
  · intro h
    unfold validatedBy at h
    split at h
    · obtain ⟨htable, ⟨hname, hvName, hnames⟩ | ⟨hnames, htarget, htargets⟩⟩ :=
        foreignKeyMatches_iff.mp h
      · exact .keyByName htable hname hvName hnames
      · exact .keyByTarget htable hnames htarget htargets
    · obtain ⟨htable, hname⟩ := (Bool.and_eq_true _ _).mp h
      exact .check htable hname
    · cases h

end Operation

/-- A constraint of a plan that is added without validation and that a validation is about. -/
structure Plan.Awaits (p : Plan) (v c : PlacedOperation) : Prop where
  placed : c ∈ p.placed
  unvalidated : c.operation.addsUnvalidated = true
  validates : v.operation.Validates c.operation

/-- There are constraints that a validation is about, and it runs before all of them. -/
def Plan.RunsFirst (p : Plan) (v : PlacedOperation) : Prop :=
  (∃ c, p.Awaits v c) ∧ ∀ c, p.Awaits v c → v.ref.before c.ref = true

/-- The first of the constraints that a validation is about. -/
def Plan.AwaitsFirst (p : Plan) (v c : PlacedOperation) : Prop :=
  p.Awaits v c ∧ ∀ d, p.Awaits v d → d = c ∨ c.ref.before d.ref = true

section
variable {p : Plan} {v : PlacedOperation}

theorem Plan.mem_creationsFor_iff_awaits {c : PlacedOperation} :
    c ∈ p.creationsFor v ↔ p.Awaits v c := by
  rw [mem_creationsFor, ← Operation.validates_iff]
  exact ⟨fun ⟨hc, hu, hv⟩ => ⟨hc, hu, hv⟩, fun ⟨hc, hu, hv⟩ => ⟨hc, hu, hv⟩⟩

theorem Plan.runsFirst_iff : p.RunsFirst v ↔ (p.creationsFor v).isEmpty = false ∧
    (p.creationsFor v).all (fun c => v.ref.before c.ref) = true := by
  simp only [RunsFirst, ← mem_creationsFor_iff_awaits, List.all_eq_true,
    List.isEmpty_eq_false_iff_exists_mem]

instance : Decidable (p.RunsFirst v) :=
  decidable_of_iff _ Plan.runsFirst_iff.symm

/-- A validation that runs before its constraints waits for the first of them. -/
theorem awaitedBy_of_runsFirst (h : p.RunsFirst v) :
    ∃ c, p.awaitedBy v = [c] ∧ p.AwaitsFirst v c := by
  obtain ⟨hsome, hall⟩ := Plan.runsFirst_iff.mp h
  have hsorted : (p.creationsFor v).Pairwise fun c d => c.ref.before d.ref = true :=
    (p.placed_sorted.filter _).filter _
  rw [Plan.awaitedBy, if_pos hall]
  simp only [Plan.AwaitsFirst, ← Plan.mem_creationsFor_iff_awaits]
  cases hcreations : p.creationsFor v with
  | nil =>
    rw [hcreations] at hsome
    cases hsome
  | cons c cs =>
    rw [hcreations] at hsorted
    exact ⟨c, rfl, List.mem_cons_self, fun d hd => (List.mem_cons.mp hd).imp_right
      ((List.pairwise_cons.mp hsorted).1 d)⟩

/-- Any other validation waits for none. -/
theorem awaitedBy_of_not_runsFirst (h : ¬p.RunsFirst v) : p.awaitedBy v = [] := by
  rw [Plan.awaitedBy]
  split
  · rename_i hall
    have hnone : (p.creationsFor v).isEmpty = true :=
      Bool.not_eq_false _ |>.mp fun hsome => h (Plan.runsFirst_iff.mpr ⟨hsome, hall⟩)
    rw [List.isEmpty_iff.mp hnone, List.take_nil]
  · rfl

/-! ## What is found about one validation -/

/-- Whether an operation is one of the two of a violation. -/
def Violation.involves (o : PlacedOperation) (x : Violation) : Bool :=
  x.first.samePlace o.ref || x.second.samePlace o.ref

/-- Whether an operation stands at one of the two places of a finding. -/
def Finding.involves (o : PlacedOperation) (f : Finding) : Bool :=
  f.left.ref.samePlace o.ref || f.right.ref.samePlace o.ref

theorem involves_of_violation {f : Finding} {x : Violation} (h : f.violation.outcome = .ok x)
    (o : PlacedOperation) : f.involves o = x.involves o :=
  (symmetric_of_violation (q := fun a b => a.samePlace o.ref || b.samePlace o.ref)
    (fun _ _ => Bool.or_comm _ _) h).symm

/-- What is found about a validation and a constraint involves no other validation. -/
theorem involves_validateFirst {w c : PlacedOperation} (hv : v ∈ p.validations)
    (hw : w ∈ p.validations) (hc : c ∈ p.creationsFor w) :
    (Finding.validateFirst w c).involves v = true ↔ w = v := by
  obtain ⟨hv, hvalidation⟩ := List.mem_filter.mp hv
  obtain ⟨hw, -⟩ := List.mem_filter.mp hw
  obtain ⟨hc, hunvalidated, -⟩ := Plan.mem_creationsFor.mp hc
  simp only [Finding.involves, Finding.left, Finding.right, Bool.or_eq_true,
    OperationRef.samePlace_iff]
  constructor
  · rintro (hkey | hkey)
    · exact Plan.eq_of_key hw hv hkey
    · obtain rfl := Plan.eq_of_key hc hv hkey
      exact absurd hvalidation
        (Bool.eq_false_iff.mp (not_validation_of_addsUnvalidated hunvalidated))
  · rintro rfl
    exact .inl rfl

/-- The findings of the rule that constraints are added first are those of the validations. -/
theorem filter_findings_validateFirstRule (p : Plan) :
    p.findings.filter (·.rule == validateFirstRule) =
      p.validations.flatMap fun v => (p.awaitedBy v).map (.validateFirst v) := by
  have hother : isolationRule ≠ validateFirstRule ∧ deferredRule ≠ validateFirstRule := by decide
  rw [filter_findings]
  simp [hother]

/-- The findings of that rule about one validation are the constraints it waits for. -/
theorem filter_involves (hv : v ∈ p.validations) :
    (p.findings.filter (·.rule == validateFirstRule)).filter (·.involves v) =
      (p.awaitedBy v).map (.validateFirst v) := by
  have hnodup : p.validations.Nodup := p.nodup_placed.filter _
  rw [filter_findings_validateFirstRule, List.filter_flatMap, flatMap_eq_of_only hnodup hv]
  · refine List.filter_eq_self.mpr fun f hf => ?_
    obtain ⟨c, hc, rfl⟩ := List.mem_map.mp hf
    exact (involves_validateFirst hv hv (Plan.mem_awaitedBy hc).1).mpr rfl
  · refine fun w hw hne => List.filter_eq_nil_iff.mpr fun f hf hin => hne ?_
    obtain ⟨c, hc, rfl⟩ := List.mem_map.mp hf
    exact (involves_validateFirst hv hw (Plan.mem_awaitedBy hc).1).mp hin

/-! ## The second pass -/

/-- The violations that say that a validation runs before its constraints. -/
def Sequenced.validateFirstOf (s : Sequenced) (v : PlacedOperation) : List Violation :=
  s.violations.filter fun x => x.rule == validateFirstRule && x.involves v

variable {verdicts : List (List Verdict)} {s : Sequenced}

theorem validateFirstOf_of_sequence (h : (sequence p verdicts).outcome = .ok s)
    (hv : v ∈ p.validations) :
    Violation.AreOf ((p.awaitedBy v).map (.validateFirst v)) (s.validateFirstOf v) := by
  rw [← filter_involves hv]
  simp only [Sequenced.validateFirstOf, Bool.and_comm (_ == validateFirstRule)]
  rw [← List.filter_filter]
  exact (findings_of_rule h validateFirstRule).filter fun f x hfx => involves_of_violation hfx v

/-- The violation of a validation and a constraint that it waits for names them in this order. -/
theorem eq_of_validateFirst {c : PlacedOperation} {x : Violation} (hc : c ∈ p.awaitedBy v)
    (h : (Finding.validateFirst v c).violation.outcome = .ok x) :
    x.first = v.ref ∧ x.second = c.ref := by
  obtain ⟨_, _, -, -, rfl⟩ := Finding.violation_eq_ok.mp h
  rw [Finding.left, Finding.right, (between_of_before (Plan.mem_awaitedBy hc).2 _ _).1]
  exact ⟨rfl, rfl⟩

/-- A validation that runs before its constraints is reported once, with the first of them. -/
theorem validateFirstOf_of_runsFirst (h : (sequence p verdicts).outcome = .ok s)
    (hv : v ∈ p.validations) (hfirst : p.RunsFirst v) :
    ∃ x c, s.validateFirstOf v = [x] ∧ x.first = v.ref ∧ x.second = c.ref ∧
      p.AwaitsFirst v c := by
  have hfound := validateFirstOf_of_sequence h hv
  obtain ⟨c, hc, hawaits⟩ := awaitedBy_of_runsFirst hfirst
  rw [hc, List.map_singleton] at hfound
  obtain ⟨x, _, hx, hnil, hlist⟩ := List.forall₂_cons_left_iff.mp hfound
  cases hnil
  obtain ⟨hxv, hxc⟩ := eq_of_validateFirst (hc ▸ List.mem_singleton_self c) hx
  exact ⟨x, c, hlist, hxv, hxc, hawaits⟩

/-- Any other validation is not reported. -/
theorem validateFirstOf_of_not_runsFirst (h : (sequence p verdicts).outcome = .ok s)
    (hv : v ∈ p.validations) (hfirst : ¬p.RunsFirst v) : s.validateFirstOf v = [] := by
  have hfound := validateFirstOf_of_sequence h hv
  rw [awaitedBy_of_not_runsFirst hfirst] at hfound
  exact List.forall₂_nil_left_iff.mp hfound

/-- Each of these violations is by a validation and a constraint that it is about. -/
theorem exists_awaits_of_violation (h : (sequence p verdicts).outcome = .ok s) {x : Violation}
    (hx : x ∈ s.violations) (hrule : x.rule = validateFirstRule) :
    ∃ v ∈ p.validations, ∃ c, p.Awaits v c ∧ x.first = v.ref ∧ x.second = c.ref := by
  obtain ⟨f, hf, hfx⟩ := exists_of_forall₂ (findings_of_rule h validateFirstRule)
    (List.mem_filter.mpr ⟨hx, beq_iff_eq.mpr hrule⟩)
  rw [filter_findings_validateFirstRule] at hf
  obtain ⟨v, hv, hf⟩ := List.mem_flatMap.mp hf
  obtain ⟨c, hc, rfl⟩ := List.mem_map.mp hf
  exact ⟨v, hv, c, Plan.mem_creationsFor_iff_awaits.mp (Plan.mem_awaitedBy hc).1,
    eq_of_validateFirst hc hfx⟩

end

/-- A validation is reported to run before its constraints exactly if the plan adds constraints
without validation that it is about, and all of them after it; it is then reported once, with the
first of these constraints. Only validations and such constraints are reported under this rule. -/
theorem validateFirst_violations (p : Plan) (verdicts : List (List Verdict)) :
    (p.isTyped = true → aligned p verdicts = true →
      ∃ s, (sequence p verdicts).outcome = .ok s) ∧
    ∀ s, (sequence p verdicts).outcome = .ok s →
      (∀ v ∈ p.validations,
        (s.validateFirstOf v ≠ [] ↔ p.RunsFirst v) ∧
        (p.RunsFirst v → ∃ x c, s.validateFirstOf v = [x] ∧ x.first = v.ref ∧ x.second = c.ref ∧
          p.AwaitsFirst v c)) ∧
      ∀ x ∈ s.violations, x.rule = validateFirstRule →
        ∃ v ∈ p.validations, ∃ c, p.Awaits v c ∧ x.first = v.ref ∧ x.second = c.ref := by
  refine ⟨sequence_total, fun s hs => ⟨fun v hv => ⟨⟨fun hreported => ?_, fun hfirst => ?_⟩,
    validateFirstOf_of_runsFirst hs hv⟩, fun x => exists_awaits_of_violation hs⟩⟩
  · by_contra hfirst
    exact hreported (validateFirstOf_of_not_runsFirst hs hv hfirst)
  · obtain ⟨x, _, hx, -⟩ := validateFirstOf_of_runsFirst hs hv hfirst
    rw [hx]
    exact List.cons_ne_nil x []

/-- A plan with two validations: all constraints that the first one is about are added after it, and
the other one has an earlier and a later one. -/
def validatedTooSoon : Plan :=
  ⟨[⟨.text "first",
    [.validateForeignKey (.text "orders") (.text "users") .null,
      .addCheckConstraint (.text "orders") (.text "total > 0") (.text "positive") false,
      .validateCheckConstraint (.text "orders") (.text "positive")], false, false, false⟩,
    ⟨.text "second",
      [.addForeignKey (.text "orders") (.text "users") (.text "buyer_id") .null false,
        .addForeignKey (.text "orders") (.text "users") (.text "seller_id") .null false,
        .addCheckConstraint (.text "orders") (.text "total > 1") (.text "positive") false],
      false, false, false⟩]⟩

/-- A verdict about every operation of the plan. -/
def safeConstraints : List (List Verdict) :=
  let safe : Verdict := ⟨.safe, "", .nothing, none, "add-foreign-key-not-valid", false⟩
  [List.replicate 3 safe, List.replicate 3 safe]

theorem validateFirst_violations_validatedTooSoon :
    ∃ s, (sequence validatedTooSoon safeConstraints).outcome = .ok s ∧
      (∃ x, s.validateFirstOf
          ⟨⟨0, 0, .text "first"⟩, .validateForeignKey (.text "orders") (.text "users") .null⟩ =
            [x]) ∧
      s.validateFirstOf
        ⟨⟨0, 2, .text "first"⟩, .validateCheckConstraint (.text "orders") (.text "positive")⟩ =
          [] := by
  obtain ⟨htotal, hreported⟩ := validateFirst_violations validatedTooSoon safeConstraints
  obtain ⟨s, hs⟩ := htotal (by decide) rfl
  obtain ⟨hof, -⟩ := hreported s hs
  obtain ⟨-, honce⟩ := hof _ (List.mem_of_getElem? (i := 0) rfl)
  obtain ⟨x, _, hx, -⟩ := honce (by decide)
  obtain ⟨hiff, -⟩ := hof _ (List.mem_of_getElem? (i := 1) rfl)
  exact ⟨s, hs, ⟨x, hx⟩, not_not.mp (mt hiff.mp (by decide))⟩

end MigrationSafety
