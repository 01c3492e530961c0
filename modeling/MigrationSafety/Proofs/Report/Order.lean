import Mathlib.Data.Prod.Lex
import Mathlib.Data.String.Basic
import MigrationSafety.Proofs.Sorting
import MigrationSafety.Report.Basic

/-!
# The order of violations in a report

Violations are compared by their two operations and their rule, which is a lexicographic order, and
a report puts them in that order without moving those that compare equal. So it does not matter
whether violations are taken out before they are put in order or after.

* `Violation.key`, `Violation.not_before_iff`: violations are compared by a key with a linear order;
* `violations_build_perm`, `violations_build_sorted`, `filter_violations_build`,
  `map_violations_build`: the violations of a report, put in order.
-/

namespace MigrationSafety

/-- The place of an operation as a pair that is compared lexicographically. -/
def OperationRef.key (r : OperationRef) : Int ×ₗ Int :=
  toLex (r.migration, r.index)

theorem OperationRef.before_iff {a b : OperationRef} : a.before b = true ↔ a.key < b.key := by
  simp [before, key, Prod.Lex.toLex_lt_toLex]

theorem OperationRef.not_before_iff (a b : OperationRef) :
    (!b.before a) = true ↔ a.key ≤ b.key := by
  rw [Bool.not_eq_true', ← Bool.not_eq_true, before_iff, not_lt]

theorem OperationRef.samePlace_iff {a b : OperationRef} : a.samePlace b = true ↔ a.key = b.key := by
  simp [samePlace, key]

/-- The operations of a violation and its rule, compared lexicographically. -/
def Violation.key (x : Violation) : (Int ×ₗ Int) ×ₗ (Int ×ₗ Int) ×ₗ String :=
  toLex (x.first.key, toLex (x.second.key, x.rule))

theorem Violation.before_iff {a b : Violation} : a.before b = true ↔ a.key < b.key := by
  simp [before, key, Prod.Lex.toLex_lt_toLex, OperationRef.before_iff, OperationRef.samePlace_iff]

theorem Violation.not_before_iff (a b : Violation) : (!b.before a) = true ↔ a.key ≤ b.key := by
  rw [Bool.not_eq_true', ← Bool.not_eq_true, before_iff, not_lt]

/-- A report has the violations that it is made from. -/
theorem violations_build_perm (engine : Engine) (results : List Result)
    (violations : List Violation) (failOn : Status) :
    (Report.build engine results violations failOn).violations.Perm violations :=
  List.mergeSort_perm violations _

/-- A report lists violations that it can tell apart in strict order. -/
theorem violations_build_sorted (engine : Engine) (results : List Result)
    {violations : List Violation} (failOn : Status)
    (h : (violations.map Violation.key).Nodup) :
    (Report.build engine results violations failOn).violations.Pairwise fun x y =>
      x.before y = true :=
  (mergeSort_lt_of_key Violation.not_before_iff h).imp Violation.before_iff.mpr

/-- Violations can be taken out of a report before it puts them in order. -/
theorem filter_violations_build (engine : Engine) (results : List Result)
    (violations : List Violation) (failOn : Status) (q : Violation → Bool) :
    (Report.build engine results violations failOn).violations.filter q =
      (Report.build engine results (violations.filter q) failOn).violations :=
  filter_mergeSort (trans_of_key Violation.not_before_iff) (total_of_key Violation.not_before_iff) q
    violations

/-- What does not change places or rules can be done before a report puts violations in order. -/
theorem map_violations_build (engine : Engine) (results : List Result)
    (violations : List Violation) (failOn : Status) {f : Violation → Violation}
    (hf : ∀ x, (f x).key = x.key) :
    (Report.build engine results violations failOn).violations.map f =
      (Report.build engine results (violations.map f) failOn).violations := by
  refine List.map_mergeSort fun a _ b _ => ?_
  rw [Bool.eq_iff_iff, Violation.not_before_iff, Violation.not_before_iff, hf, hf]

end MigrationSafety
