import MigrationSafety.Proofs.Report.Order
import MigrationSafety.Report.Record
import MigrationSafety.Report.Text

/-!
# Reports that are put together in another order

A report puts its results in the order of the plan and its violations in the order of their
operations and rules. Where no two results have the same place, and no two violations the same
operations and rule, these orders are linear, so that nothing is left of the order in which the
findings came.

* `Report.Indistinct`: reports that nothing tells apart;
* `build_eq_of_perm`: findings in another order make the same report;
* `build_rearranged`: so whatever is asked of it has the same answer.
-/

namespace MigrationSafety

/-- Whether nothing that is asked of two reports tells them apart: what they are written as, and
what they say about operations and about the plan. -/
structure Report.Indistinct (r s : Report) : Prop where
  record : r.record = s.record
  toJson : ∀ indent, r.toJson indent = s.toJson indent
  toText : ∀ verbose, r.toText verbose = s.toText verbose
  rows : r.rows = s.rows
  results : r.results = s.results
  violations : r.violations = s.violations
  unsafeResults : r.unsafeResults = s.unsafeResults
  resultsFor : ∀ name, r.resultsFor name = s.resultsFor name
  counts : r.counts = s.counts
  worst : r.worst = s.worst
  isBlocking : r.isBlocking = s.isBlocking

theorem Report.Indistinct.of_eq {r s : Report} (h : r = s) : r.Indistinct s := by
  subst h
  exact ⟨rfl, fun _ => rfl, fun _ => rfl, rfl, rfl, rfl, rfl, fun _ => rfl, rfl, rfl, rfl⟩

/-- Findings make the same report in any order, if results have different places and violations
differ in their operations or their rules. The names of migrations play no part. -/
theorem build_eq_of_perm (engine : Engine) (failOn : Status) {results results' : List Result}
    {violations violations' : List Violation} (hplaces : (results.map (·.ref.key)).Nodup)
    (hkeys : (violations.map Violation.key).Nodup) (hresults : results.Perm results')
    (hviolations : violations.Perm violations') :
    Report.build engine results violations failOn =
      Report.build engine results' violations' failOn := by
  have hr : (results.mergeSort fun a b => !b.ref.before a.ref) =
      results'.mergeSort fun a b => !b.ref.before a.ref :=
    mergeSort_eq_of_perm (fun a b => OperationRef.not_before_iff a.ref b.ref) hresults hplaces
  have hv : (violations.mergeSort fun a b => !b.before a) =
      violations'.mergeSort fun a b => !b.before a :=
    mergeSort_eq_of_perm Violation.not_before_iff hviolations hkeys
  rw [Report.build, Report.build, hr, hv]

/-- Nothing tells reports apart whose findings come in different orders: neither their records,
their JSON texts and their texts, nor what they say about operations and about the plan. -/
theorem build_rearranged (engine : Engine) (failOn : Status) {results results' : List Result}
    {violations violations' : List Violation} (hplaces : (results.map (·.ref.key)).Nodup)
    (hkeys : (violations.map Violation.key).Nodup) (hresults : results.Perm results')
    (hviolations : violations.Perm violations') :
    (Report.build engine results violations failOn).Indistinct
      (Report.build engine results' violations' failOn) :=
  .of_eq (build_eq_of_perm engine failOn hplaces hkeys hresults hviolations)

/-- Results of two migrations, one of which is named twice, in the order of the plan. -/
def namedTwice : List Result :=
  let verdict (s : Status) : Verdict := ⟨s, "", .nothing, none, "", false⟩
  [⟨⟨0, 0, .text "users"⟩, .createTable (.text "users") true, verdict .unsafeChange⟩,
    ⟨⟨0, 1, .text "people"⟩, .addJsonColumn (.text "users") (.text "tags"), verdict .safe⟩,
    ⟨⟨1, 0, .text "users"⟩, .executeSql (.text "ANALYZE") .null, verdict .conditionallySafe⟩]

/-- Two violations of the same operations, told apart by their rules. -/
def twoRules : List Violation :=
  [⟨"b", "first", ⟨0, 0, .text "users"⟩, ⟨0, 1, .text "people"⟩, false⟩,
    ⟨"a", "second", ⟨0, 0, .text "people"⟩, ⟨0, 1, .text "users"⟩, true⟩]

/-- Turning both lists around makes no difference. -/
theorem build_rearranged_reversed :
    (namedTwice.map (·.ref.key)).Nodup ∧ (twoRules.map Violation.key).Nodup ∧
      (Report.build ⟨.postgres, none, "UTC"⟩ namedTwice twoRules .safe).Indistinct
        (Report.build ⟨.postgres, none, "UTC"⟩ namedTwice.reverse twoRules.reverse .safe) := by
  have hplaces : (namedTwice.map (·.ref.key)).Nodup := by decide
  have hkeys : (twoRules.map Violation.key).Nodup := by decide
  exact ⟨hplaces, hkeys, build_rearranged _ _ hplaces hkeys
    (List.reverse_perm namedTwice).symm (List.reverse_perm twoRules).symm⟩

end MigrationSafety
