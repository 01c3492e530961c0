import Mathlib.Logic.Basic
import MigrationSafety.Report.Basic

/-!
# A report in short

A report counts its results by status, names the worst of them, and says whether it blocks. Each of
these looks at the results on its own, and violations and assurance matter to some of them only.
What ties them together is which statuses the worst one reaches: those that a result reaches, and
all of them if there is a violation.

* `Status.rank_le_foldl`, `rank_le_worst`: what the worst status reaches;
* `count_add`, `count_pos`: results by status;
* `worst_eq_unsafeChange`, `worst_eq_conditionallySafe`, `worst_eq_safe`: the worst status by the
  counts;
* `isBlocking_iff`, `rank_le_of_isBlocking`, `isBlocking_of_rank_le`: blocking by the worst status;
* `aggregates_agree`: all of it.
-/

namespace MigrationSafety

namespace Status

/-- The worse of two statuses reaches a third one if one of them does. -/
theorem rank_le_worse {s t u : Status} :
    s.rank ≤ (t.worse u).rank ↔ s.rank ≤ t.rank ∨ s.rank ≤ u.rank := by
  rw [worse]
  split <;> omega

/-- The worst of some statuses reaches another one if one of them does. -/
theorem rank_le_foldl {s t : Status} {l : List Status} :
    s.rank ≤ (l.foldl worse t).rank ↔ s.rank ≤ t.rank ∨ ∃ u ∈ l, s.rank ≤ u.rank := by
  induction l generalizing t with
  | nil => simp
  | cons u l ih =>
    rw [List.foldl_cons, ih, rank_le_worse, or_assoc]
    simp only [List.mem_cons, exists_eq_or_imp]

theorem eq_unsafeChange_iff {s : Status} : s = .unsafeChange ↔ unsafeChange.rank ≤ s.rank := by
  cases s <;> decide

theorem eq_conditionallySafe_iff {s : Status} :
    s = .conditionallySafe ↔ s ≠ .unsafeChange ∧ conditionallySafe.rank ≤ s.rank := by
  cases s <;> decide

theorem eq_safe_iff {s : Status} : s = .safe ↔ s ≠ .unsafeChange ∧ s ≠ .conditionallySafe := by
  cases s <;> decide

theorem rank_le_unsafeChange (s : Status) : s.rank ≤ unsafeChange.rank := by
  cases s <;> decide

theorem rank_le_safe {s : Status} : s.rank ≤ safe.rank ↔ s = .safe := by
  cases s <;> decide

end Status

namespace Report

variable (r : Report)

/-! ## The worst status -/

/-- The worst status of a report reaches another one if that is safe, if there is a violation, or if
a result reaches it. -/
theorem rank_le_worst {s : Status} : s.rank ≤ r.worst.rank ↔
    s = .safe ∨ r.violations ≠ [] ∨ ∃ x ∈ r.results, s.rank ≤ x.verdict.status.rank := by
  rw [worst]
  cases r.violations with
  | nil =>
    rw [List.isEmpty_nil, if_pos rfl, Status.rank_le_foldl, Status.rank_le_safe]
    simp only [List.mem_map, exists_exists_and_eq_and, ne_eq, not_true_eq_false, false_or]
  | cons x xs => exact iff_of_true s.rank_le_unsafeChange (.inr (.inl (List.cons_ne_nil x xs)))

/-! ## Counts -/

theorem count_add : r.count .safe + r.count .conditionallySafe + r.count .unsafeChange =
    r.results.length := by
  rw [count, count, count]
  induction r.results with
  | nil => rfl
  | cons x xs ih =>
    simp only [List.countP_cons, List.length_cons]
    cases x.verdict.status <;> simp <;> omega

theorem count_pos {s : Status} : 0 < r.count s ↔ ∃ x ∈ r.results, x.verdict.status = s := by
  simp [count, List.countP_pos_iff]

theorem count_unsafeChange : r.count .unsafeChange = r.unsafeResults.length :=
  List.countP_eq_length_filter

/-- The worst status of a report is unsafe if there is a violation or an unsafe result. -/
theorem worst_eq_unsafeChange :
    r.worst = .unsafeChange ↔ r.violations ≠ [] ∨ 0 < r.count .unsafeChange := by
  rw [Status.eq_unsafeChange_iff, rank_le_worst, count_pos]
  simp only [reduceCtorEq, false_or, ← Status.eq_unsafeChange_iff]

/-- It is conditionally safe if there is neither, but a conditionally safe result. -/
theorem worst_eq_conditionallySafe : r.worst = .conditionallySafe ↔
    ¬(r.violations ≠ [] ∨ 0 < r.count .unsafeChange) ∧ 0 < r.count .conditionallySafe := by
  rw [Status.eq_conditionallySafe_iff, ne_eq, worst_eq_unsafeChange, rank_le_worst]
  refine and_congr_right fun hunsafe => ?_
  rw [not_or] at hunsafe
  simp only [reduceCtorEq, hunsafe.1, false_or, count_pos]
  refine exists_congr fun x => and_congr_right fun hx => ?_
  have hstatus : x.verdict.status ≠ .unsafeChange := fun h =>
    hunsafe.2 (r.count_pos.mpr ⟨x, hx, h⟩)
  exact ⟨fun hrank => Status.eq_conditionallySafe_iff.mpr ⟨hstatus, hrank⟩,
    fun h => (Status.eq_conditionallySafe_iff.mp h).2⟩

/-- Otherwise it is safe. -/
theorem worst_eq_safe : r.worst = .safe ↔
    ¬(r.violations ≠ [] ∨ 0 < r.count .unsafeChange) ∧ ¬0 < r.count .conditionallySafe := by
  rw [Status.eq_safe_iff, ne_eq, ne_eq, worst_eq_unsafeChange, worst_eq_conditionallySafe]
  exact and_congr_right fun hunsafe => not_congr (and_iff_right hunsafe)

/-! ## Blocking -/

/-- A report blocks if nobody vouches for one of its violations, or for a result that is dangerous
enough. -/
theorem isBlocking_iff : r.isBlocking = true ↔ (∃ x ∈ r.violations, x.assured = false) ∨
    ∃ x ∈ r.results, x.verdict.assured = false ∧ r.failOn.rank ≤ x.verdict.status.rank := by
  simp [isBlocking]

/-- A report that blocks is at least as dangerous as what keeps a plan from being deployed. -/
theorem rank_le_of_isBlocking (h : r.isBlocking = true) : r.failOn.rank ≤ r.worst.rank := by
  rw [rank_le_worst]
  rcases r.isBlocking_iff.mp h with ⟨x, hx, -⟩ | ⟨x, hx, -, hrank⟩
  · exact .inr (.inl (List.ne_nil_of_mem hx))
  · exact .inr (.inr ⟨x, hx, hrank⟩)

/-- A report with findings for which nobody vouches blocks if it is that dangerous. -/
theorem isBlocking_of_rank_le (hresults : ∀ x ∈ r.results, x.verdict.assured = false)
    (hviolations : ∀ x ∈ r.violations, x.assured = false)
    (hfindings : r.results ≠ [] ∨ r.violations ≠ []) (h : r.failOn.rank ≤ r.worst.rank) :
    r.isBlocking = true := by
  rw [isBlocking_iff]
  -- Every status reaches a safe one, but a report without findings does not block for it.
  by_cases hnone : r.violations = []
  · refine .inr ?_
    rcases r.rank_le_worst.mp h with hsafe | hsome | ⟨x, hx, hrank⟩
    · obtain ⟨x, hx⟩ := List.exists_mem_of_ne_nil _ (hfindings.resolve_right (· hnone))
      exact ⟨x, hx, hresults x hx, hsafe ▸ Nat.zero_le _⟩
    · exact absurd hnone hsome
    · exact ⟨x, hx, hresults x hx, hrank⟩
  · obtain ⟨x, hx⟩ := List.exists_mem_of_ne_nil _ hnone
    exact .inl ⟨x, hx, hviolations x hx⟩

/-! ## The whole -/

/-- What a report says in short agrees with itself. The counts add up to the number of results, and
the unsafe ones are those that are listed. The worst status is unsafe if there is a violation or an
unsafe result, else conditionally safe if there is such a result, else safe. A report that blocks is
at least as dangerous as what keeps a plan from being deployed; the converse holds of a report with
findings for which nobody vouches. -/
theorem aggregates_agree : ∃ safe conditionallySafe unsafeChange : Nat,
    r.counts = [("safe", .int safe), ("conditionally_safe", .int conditionallySafe),
      ("unsafe", .int unsafeChange)] ∧
    safe + conditionallySafe + unsafeChange = r.results.length ∧
    unsafeChange = r.unsafeResults.length ∧
    (r.worst = .unsafeChange ↔ r.violations ≠ [] ∨ 0 < unsafeChange) ∧
    (r.worst = .conditionallySafe ↔
      ¬(r.violations ≠ [] ∨ 0 < unsafeChange) ∧ 0 < conditionallySafe) ∧
    (r.worst = .safe ↔
      ¬(r.violations ≠ [] ∨ 0 < unsafeChange) ∧ ¬0 < conditionallySafe) ∧
    (r.isBlocking = true → r.failOn.rank ≤ r.worst.rank) ∧
    ((∀ x ∈ r.results, x.verdict.assured = false) → (∀ x ∈ r.violations, x.assured = false) →
      (r.results ≠ [] ∨ r.violations ≠ []) →
      (r.isBlocking = true ↔ r.failOn.rank ≤ r.worst.rank)) :=
  ⟨r.count .safe, r.count .conditionallySafe, r.count .unsafeChange, rfl, r.count_add,
    r.count_unsafeChange, r.worst_eq_unsafeChange, r.worst_eq_conditionallySafe, r.worst_eq_safe,
    r.rank_le_of_isBlocking, fun hresults hviolations hfindings =>
      ⟨r.rank_le_of_isBlocking, r.isBlocking_of_rank_le hresults hviolations hfindings⟩⟩

/-- A report on a statement that is conditionally safe, where that keeps a plan from being
deployed. -/
def oneStatement : Report :=
  ⟨⟨.postgres, none, Engine.defaultTimeZone⟩,
    [⟨⟨0, 0, .text "users"⟩, .executeSql (.text "ANALYZE users") .null,
      ⟨.conditionallySafe, "", .nothing, none, "", false⟩⟩], [], .conditionallySafe⟩

/-- The statement is counted, is the worst of the report, and makes it block. -/
theorem aggregates_agree_oneStatement :
    (∀ x ∈ oneStatement.results, x.verdict.assured = false) ∧
      (∀ x ∈ oneStatement.violations, x.assured = false) ∧ oneStatement.results ≠ [] ∧
      oneStatement.worst = .conditionallySafe ∧ oneStatement.isBlocking = true := by
  have hresults : ∀ x ∈ oneStatement.results, x.verdict.assured = false := by simp [oneStatement]
  have hviolations : ∀ x ∈ oneStatement.violations, x.assured = false := nofun
  have hsome : oneStatement.results ≠ [] := nofun
  obtain ⟨_, _, _, -, -, -, -, -, -, -, hblocks⟩ := aggregates_agree oneStatement
  have hworst : oneStatement.worst = .conditionallySafe := rfl
  refine ⟨hresults, hviolations, hsome, hworst, ?_⟩
  rw [hblocks hresults hviolations (.inl hsome), hworst]
  decide

/-- A report without findings does not block, though every status reaches a safe one. -/
example (engine : Engine) : (Report.mk engine [] [] .safe).isBlocking = false := rfl

end Report

end MigrationSafety
