import Mathlib.Data.List.Nodup
import MigrationSafety.Proofs.Report.Order
import MigrationSafety.Proofs.Sequencing.Violations

/-!
# Nothing is found twice

A report tells violations apart by their two operations, in the order of the plan, and their rule.
The second pass goes over pairs of operations in three different ways; it finds no pair twice, and
what it finds can be told apart in a report.

* `Plan.eq_of_key`: an operation of a plan is known by its place;
* `Finding.key`, `key_of_violation`: what a violation is known by in a report;
* `Plan.Finds.key_ne`: the operations of a finding have different places;
* `Plan.Finds.eq_of_key`: a finding is known by the key of its violation;
* `nodup_findings`: no finding comes twice;
* `keys_distinct`: no two violations of the second pass have one key.
-/

namespace MigrationSafety

/-! ## Keys -/

/-- What the violation of a finding is known by in a report. -/
def Finding.key (f : Finding) : (Int ×ₗ Int) ×ₗ (Int ×ₗ Int) ×ₗ String :=
  toLex (min f.left.ref.key f.right.ref.key, toLex (max f.left.ref.key f.right.ref.key, f.rule))

theorem key_between (rule message : String) (a b : OperationRef) :
    (Violation.between rule message a b).key =
      toLex (min a.key b.key, toLex (max a.key b.key, rule)) := by
  rw [Violation.between]
  split
  · rename_i hba
    have hle := (OperationRef.before_iff.mp hba).le
    rw [min_eq_right hle, max_eq_left hle]
    rfl
  · rename_i hba
    have hle := not_lt.mp fun hlt => hba (OperationRef.before_iff.mpr hlt)
    rw [min_eq_left hle, max_eq_right hle]
    rfl

theorem key_of_violation {f : Finding} {x : Violation} (h : f.violation.outcome = .ok x) :
    x.key = f.key := by
  obtain ⟨_, _, -, -, rfl⟩ := Finding.violation_eq_ok.mp h
  exact key_between ..

/-- Two pairs with the same lesser and the same greater part are equal, or swapped. -/
theorem eq_or_swap_of_min_max {α : Type} [LinearOrder α] {a b c d : α} (hmin : min a b = min c d)
    (hmax : max a b = max c d) : (a = c ∧ b = d) ∨ (a = d ∧ b = c) := by
  rcases le_total a b with hab | hab <;> rcases le_total c d with hcd | hcd <;>
    simp only [min_eq_left, min_eq_right, max_eq_left, max_eq_right, hab, hcd] at hmin hmax
  · exact .inl ⟨hmin, hmax⟩
  · exact .inr ⟨hmin, hmax⟩
  · exact .inr ⟨hmax, hmin⟩
  · exact .inl ⟨hmax, hmin⟩

/-- Two findings of one form. -/
inductive Finding.SameForm : Finding → Finding → Prop
  | isolation (c o c' o' : PlacedOperation) : SameForm (.isolation c o) (.isolation c' o')
  | deferred (c v c' v' : PlacedOperation) : SameForm (.deferred c v) (.deferred c' v')
  | validateFirst (v c v' c' : PlacedOperation) :
    SameForm (.validateFirst v c) (.validateFirst v' c')

/-- Findings of one rule are of one form. -/
theorem Finding.sameForm {f g : Finding} (h : f.rule = g.rule) : f.SameForm g := by
  have hrules : isolationRule ≠ deferredRule ∧ isolationRule ≠ validateFirstRule ∧
      deferredRule ≠ validateFirstRule := by decide
  cases f <;> cases g <;> first
    | constructor
    | exact absurd h (by simp [hrules, hrules.1.symm, hrules.2.1.symm, hrules.2.2.symm])

theorem Finding.eq_or_swap_of_key {f g : Finding} (h : f.key = g.key) : f.rule = g.rule ∧
    ((f.left.ref.key = g.left.ref.key ∧ f.right.ref.key = g.right.ref.key) ∨
      (f.left.ref.key = g.right.ref.key ∧ f.right.ref.key = g.left.ref.key)) := by
  obtain ⟨hmin, hrest⟩ := Prod.mk.inj (toLex.injective h)
  obtain ⟨hmax, hrule⟩ := Prod.mk.inj (toLex.injective hrest)
  exact ⟨hrule, eq_or_swap_of_min_max hmin hmax⟩

section
variable {p : Plan}

/-- An operation of a plan is known by its place. -/
theorem Plan.eq_of_key {x y : PlacedOperation} (hx : x ∈ p.placed) (hy : y ∈ p.placed)
    (h : x.ref.key = y.ref.key) : x = y := by
  obtain ⟨i, j, m, op, hm, hop, rfl⟩ := Plan.mem_placed.mp hx
  obtain ⟨i', j', m', op', hm', hop', rfl⟩ := Plan.mem_placed.mp hy
  obtain ⟨hi, hj⟩ := Prod.mk.inj (toLex.injective h)
  obtain rfl := Int.ofNat.inj hi
  obtain rfl := Int.ofNat.inj hj
  rw [hm, Option.some.injEq] at hm'
  subst hm'
  rw [hop, Option.some.injEq] at hop'
  rw [hop']

theorem not_validation_of_addsUnvalidated {op : Operation} (h : op.addsUnvalidated = true) :
    op.isValidation = false := by
  cases op <;> first | rfl | cases h

/-- No finding has another one of the same rule with the operations swapped. -/
theorem Plan.Finds.not_swapped {f g : Finding} (hf : p.Finds f) (hg : p.Finds g)
    (hrule : f.rule = g.rule) (hleft : f.left = g.right) (hright : f.right = g.left) : False := by
  cases Finding.sameForm hrule with
  | isolation c o c' o' =>
    obtain rfl : c = o' := hleft
    obtain rfl : o = c' := hright
    cases hf with
    | isolation _ _ _ hconcurrent hpair =>
      cases hg with
      | isolation _ _ _ hconcurrent' hpair' =>
        -- Of two concurrent operations the one that runs first is reported with the other one.
        simp only [isolationPair, Bool.not_eq_true', Bool.or_eq_false_iff, hconcurrent,
          hconcurrent', Bool.true_and] at hpair hpair'
        rcases OperationRef.before_total o.ref c.ref with h | h | h
        · exact absurd h (Bool.eq_false_iff.mp hpair.2)
        · exact absurd h (Bool.eq_false_iff.mp hpair.1)
        · exact absurd h (Bool.eq_false_iff.mp hpair'.2)
  | deferred c v c' v' =>
    obtain rfl : c = v' := hleft
    cases hf with
    | deferred _ _ hunvalidated _ _ =>
      cases hg with
      | deferred _ _ _ hvalidates' _ =>
        exact absurd (isValidation_of_validatedBy hvalidates')
          (Bool.eq_false_iff.mp (not_validation_of_addsUnvalidated hunvalidated))
  | validateFirst v c v' c' =>
    obtain rfl : v = c' := hleft
    obtain rfl : c = v' := hright
    cases hf with
    | validateFirst _ _ _ hbefore =>
      cases hg with
      | validateFirst _ _ _ hbefore' =>
        have hself := OperationRef.before_trans hbefore hbefore'
        rw [OperationRef.before_irrefl] at hself
        cases hself

/-- The operations of a finding have different places. -/
theorem Plan.Finds.key_ne {f : Finding} (hf : p.Finds f) : f.left.ref.key ≠ f.right.ref.key := by
  intro hkey
  have hsame := Plan.eq_of_key hf.left_mem hf.right_mem hkey
  cases hf with
  | isolation _ _ _ _ hpair =>
    rw [isolationPair, Bool.not_eq_true', Bool.or_eq_false_iff] at hpair
    exact absurd (OperationRef.samePlace_iff.mpr hkey.symm) (Bool.eq_false_iff.mp hpair.1)
  | @deferred c v _ _ hunvalidated hvalidates _ =>
    obtain rfl : c = v := hsame
    exact absurd (isValidation_of_validatedBy hvalidates)
      (Bool.eq_false_iff.mp (not_validation_of_addsUnvalidated hunvalidated))
  | validateFirst _ _ _ hbefore => exact (OperationRef.before_iff.mp hbefore).ne hkey

theorem Finding.eq_of_parts {f g : Finding} (hrule : f.rule = g.rule) (hleft : f.left = g.left)
    (hright : f.right = g.right) : f = g := by
  cases Finding.sameForm hrule <;> cases hleft <;> cases hright <;> rfl

/-- A finding is known by the key of its violation. -/
theorem Plan.Finds.eq_of_key {f g : Finding} (hf : p.Finds f) (hg : p.Finds g)
    (h : f.key = g.key) : f = g := by
  obtain ⟨hrule, ⟨hleft, hright⟩ | ⟨hleft, hright⟩⟩ := Finding.eq_or_swap_of_key h
  · exact Finding.eq_of_parts hrule (Plan.eq_of_key hf.left_mem hg.left_mem hleft)
      (Plan.eq_of_key hf.right_mem hg.right_mem hright)
  · exact (hf.not_swapped hg hrule (Plan.eq_of_key hf.left_mem hg.right_mem hleft)
      (Plan.eq_of_key hf.right_mem hg.left_mem hright)).elim

/-! ## No finding comes twice -/

/-- What is read off a list without duplicates if there is something to read in one item only. -/
theorem flatMap_eq_of_only {α β : Type} {f : α → List β} {as : List α} (has : as.Nodup) {a : α}
    (ha : a ∈ as) (h : ∀ b ∈ as, b ≠ a → f b = []) : as.flatMap f = f a := by
  obtain ⟨pre, post, rfl⟩ := List.append_of_mem ha
  have hdistinct : a ∉ pre ++ post := (List.nodup_cons.mp (List.nodup_middle.mp has)).1
  have hothers {bs : List α} (hbs : ∀ b ∈ bs, b ∈ pre ++ post) : bs.flatMap f = [] := by
    refine List.flatMap_eq_nil_iff.mpr fun b hb => h b ?_ ?_
    · exact List.mem_append.mpr ((List.mem_append.mp (hbs b hb)).imp_right (List.mem_cons_of_mem a))
    · rintro rfl
      exact hdistinct (hbs b hb)
  rw [List.flatMap_append, List.flatMap_cons, hothers fun b hb => List.mem_append_left post hb,
    hothers fun b hb => List.mem_append_right pre hb, List.nil_append, List.append_nil]

theorem Migration.nodup_placed (m : Migration) (i : Nat) : (m.placed i).Nodup :=
  (m.placed_sorted i).imp fun {a b} hab heq => by simp [heq, OperationRef.before_irrefl] at hab

theorem Plan.nodup_placed (p : Plan) : p.placed.Nodup :=
  p.placed_sorted.imp fun {a b} hab heq => by simp [heq, OperationRef.before_irrefl] at hab

theorem nodup_isolationFindingsIn {ops : List PlacedOperation} (h : ops.Nodup) :
    (isolationFindingsIn ops).Nodup := by
  refine List.nodup_flatMap.mpr ⟨fun c _ => (h.filter _).map fun _ _ heq => ?_,
    (h.filter _).imp fun {c c'} hne f hf hf' => ?_⟩
  · exact (Finding.isolation.inj heq).2
  · obtain ⟨_, -, rfl⟩ := List.mem_map.mp hf
    obtain ⟨_, -, heq⟩ := List.mem_map.mp hf'
    exact hne (Finding.isolation.inj heq).1.symm

theorem nodup_isolationFindings (p : Plan) : p.isolationFindings.Nodup := by
  refine List.nodup_flatMap.mpr ⟨?_, (zipIdx_sorted p.migrations).imp ?_⟩
  · rintro ⟨m, i⟩ -
    exact nodup_isolationFindingsIn (m.nodup_placed i)
  · rintro ⟨m, i⟩ ⟨m', i'⟩ hlt f hf hf'
    obtain ⟨c, hc, o, -, -, -, rfl⟩ := mem_isolationFindingsIn.mp hf
    obtain ⟨c', hc', _, -, -, -, heq⟩ := mem_isolationFindingsIn.mp hf'
    obtain ⟨rfl, -⟩ := Finding.isolation.inj heq
    have hi := migration_of_mem_placed hc
    rw [migration_of_mem_placed hc'] at hi
    omega

theorem nodup_findingsAbout (p : Plan) (v : PlacedOperation) : (p.findingsAbout v).Nodup := by
  have hcreations : (p.creationsFor v).Nodup := (p.nodup_placed.filter _).filter _
  have hawaited : (p.awaitedBy v).Nodup := by
    rw [Plan.awaitedBy]
    split
    · exact hcreations.sublist (List.take_sublist 1 _)
    · exact List.nodup_nil
  refine List.Nodup.append ((hcreations.filter _).map fun _ _ h => (Finding.deferred.inj h).1)
    (hawaited.map fun _ _ h => (Finding.validateFirst.inj h).2) fun f hf hf' => ?_
  obtain ⟨_, -, rfl⟩ := List.mem_map.mp hf
  obtain ⟨_, -, h⟩ := List.mem_map.mp hf'
  cases h

theorem nodup_findings (p : Plan) : p.findings.Nodup := by
  have hvalidation : (p.validations.flatMap p.findingsAbout).Nodup := by
    refine List.nodup_flatMap.mpr ⟨fun v _ => nodup_findingsAbout p v,
      (p.nodup_placed.filter _).imp fun {v v'} hne f hf hf' => ?_⟩
    obtain ⟨c, -, hc⟩ := Plan.exists_of_mem_findingsAbout hf
    obtain ⟨c', -, hc'⟩ := Plan.exists_of_mem_findingsAbout hf'
    rcases hc with rfl | rfl <;> rcases hc' with h | h <;> cases h <;> exact hne rfl
  refine (nodup_isolationFindings p).append hvalidation fun f hf hf' => ?_
  obtain ⟨_, _, rfl⟩ := Plan.exists_of_mem_isolationFindings hf
  obtain ⟨_, -, hf'⟩ := List.mem_flatMap.mp hf'
  obtain ⟨_, -, h | h⟩ := Plan.exists_of_mem_findingsAbout hf' <;> cases h

/-- No two violations of the second pass have one key. -/
theorem keys_distinct {verdicts : List (List Verdict)} {s : Sequenced}
    (h : (sequence p verdicts).outcome = .ok s) : (s.violations.map Violation.key).Nodup := by
  have hkeys : s.violations.map Violation.key = p.findings.map Finding.key :=
    (map_eq_of_forall₂ (findings_of_sequence h) fun _ _ hfx => (key_of_violation hfx).symm).symm
  rw [hkeys]
  exact (nodup_findings p).map_on fun f hf g hg hfg =>
    (Plan.finds_of_mem hf).eq_of_key (Plan.finds_of_mem hg) hfg

end

end MigrationSafety
