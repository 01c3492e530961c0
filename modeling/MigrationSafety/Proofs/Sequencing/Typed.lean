import MigrationSafety.Proofs.Operation.Typed
import MigrationSafety.Proofs.Sequencing.Violations

/-!
# The second pass over typed plans

Where all fields have their types and there is a verdict for every operation, the second pass has
a result: tables serve as keys, operations have descriptions, and expressions of checks are texts.

* `sequence_total`: the second pass over a typed plan has a result.
-/

namespace MigrationSafety

theorem exemptRow_total (created : List Value) {row : List (Operation × Verdict)}
    (h : ∀ x ∈ row, x.1.isTyped = true) : ∃ out, exemptRow created row = .ok out := by
  induction row generalizing created with
  | nil => exact ⟨[], rfl⟩
  | cons x row ih =>
    obtain ⟨op, v⟩ := x
    obtain ⟨hop, hrow⟩ := List.forall_mem_cons.mp h
    obtain ⟨out, hout⟩ := ih (op.createdTable?.toList ++ created) hrow
    exact ⟨_, exemptRow_cons_eq_ok.mpr ⟨Operation.isScalar_table hop, out, hout, rfl⟩⟩

namespace NotNullState

theorem step_total (s : NotNullState) {op : Operation} (h : op.isTyped = true) :
    ∃ s', s.step op = .ok s' := by
  have htable := Operation.isScalar_table h
  cases op
  case addCheckConstraint table expression name validated =>
    obtain ⟨column, hcolumn⟩ := Operation.notNullColumnOf_total h
    have hname := Operation.isScalar_constraintNameOf h
    rw [step, hcolumn]
    cases column with
    | none => exact ⟨s, rfl⟩
    | some column =>
      cases validated with
      | true => exact ⟨_, bind_eq_ok.mpr ⟨_, rfl, bind_eq_ok.mpr
          ⟨_, Value.asKey_of_isScalar htable, rfl⟩⟩⟩
      | false => exact ⟨_, bind_eq_ok.mpr ⟨_, rfl, bind_eq_ok.mpr
          ⟨_, Value.asKey_of_isScalar htable, bind_eq_ok.mpr
            ⟨_, Value.asKey_of_isScalar hname, rfl⟩⟩⟩⟩
  case validateCheckConstraint table name =>
    obtain ⟨n, rfl⟩ := (Operation.admits_required _ name).mp
      (Operation.admits_of_isTyped h (.tail _ (.head _)))
    rw [step]
    split
    · exact ⟨s, rfl⟩
    · exact ⟨_, bind_eq_ok.mpr ⟨_, Value.asKey_of_isScalar htable, rfl⟩⟩
  all_goals exact ⟨s, rfl⟩

theorem answer_total (s : NotNullState) (v : Verdict) {op : Operation} (h : op.isTyped = true) :
    ∃ w, s.answer v op = .ok w := by
  have htable := Operation.isScalar_table h
  cases op
  case setNotNull table column validated =>
    obtain ⟨c, rfl⟩ := (Operation.admits_required _ column).mp
      (Operation.admits_of_isTyped h (.tail _ (.head _)))
    rw [answer]
    split
    · exact ⟨_, bind_eq_ok.mpr ⟨_, Value.asKey_of_isScalar htable, rfl⟩⟩
    · exact ⟨v, rfl⟩
  all_goals exact ⟨v, rfl⟩

end NotNullState

theorem refineRow_total {s : NotNullState} {row : List (Operation × Verdict)}
    (h : ∀ x ∈ row, x.1.isTyped = true) : ∃ t out, refineRow s row = .ok (t, out) := by
  induction row generalizing s with
  | nil => exact ⟨s, [], rfl⟩
  | cons x row ih =>
    obtain ⟨op, v⟩ := x
    obtain ⟨hop, hrow⟩ := List.forall_mem_cons.mp h
    obtain ⟨w, hw⟩ := s.answer_total v hop
    obtain ⟨s', hs'⟩ := s.step_total hop
    obtain ⟨t, out, hout⟩ := ih (s := s') hrow
    exact ⟨t, w :: out, bind_eq_ok.mpr ⟨w, hw, bind_eq_ok.mpr ⟨s', hs', bind_eq_ok.mpr
      ⟨(t, out), hout, rfl⟩⟩⟩⟩

theorem refineRows_total {s : NotNullState} {rows : List (List (Operation × Verdict))}
    (h : ∀ row ∈ rows, ∀ x ∈ row, x.1.isTyped = true) : ∃ out, refineRows s rows = .ok out := by
  induction rows generalizing s with
  | nil => exact ⟨[], rfl⟩
  | cons row rows ih =>
    obtain ⟨hrow, hrows⟩ := List.forall_mem_cons.mp h
    obtain ⟨t, out, hout⟩ := refineRow_total (s := s) hrow
    obtain ⟨outs, houts⟩ := ih (s := t) hrows
    exact ⟨out :: outs, bind_eq_ok.mpr ⟨(t, out), hout, bind_eq_ok.mpr ⟨outs, houts, rfl⟩⟩⟩

/-! ## Violations -/

theorem isTyped_of_mem_placed {p : Plan} (h : p.isTyped = true) {x : PlacedOperation}
    (hx : x ∈ p.placed) : x.operation.isTyped = true := by
  obtain ⟨i, j, m, op, hm, hop, rfl⟩ := Plan.mem_placed.mp hx
  have hrow := List.all_eq_true.mp h m (List.mem_of_getElem? hm)
  exact List.all_eq_true.mp hrow op (List.mem_of_getElem? hop)

/-- What is found in a typed plan makes violations. -/
theorem findings_total {p : Plan} (h : p.isTyped = true) :
    ∃ xs, Violation.AreOf p.findings xs := by
  have htotal : ∀ f ∈ p.findings, ∃ x, f.violation.outcome = .ok x := by
    intro f hf
    have hfinds := Plan.finds_of_mem hf
    obtain ⟨a, ha⟩ := Operation.describe_total (isTyped_of_mem_placed h hfinds.left_mem)
    obtain ⟨b, hb⟩ := Operation.describe_total (isTyped_of_mem_placed h hfinds.right_mem)
    exact ⟨_, Finding.violation_eq_ok.mpr ⟨a, b, ha, hb, rfl⟩⟩
  obtain ⟨xs, hxs⟩ := Traced.forEach_total htotal
  exact ⟨xs, Traced.outcome_forEach_eq_ok.mp hxs⟩

/-! ## The whole pass -/

theorem isTyped_rowsOf {p : Plan} (h : p.isTyped = true) (verdicts : List (List Verdict)) :
    ∀ row ∈ rowsOf p verdicts, ∀ x ∈ row, x.1.isTyped = true := by
  intro row hrow x hx
  obtain ⟨⟨m, vs⟩, hm, rfl⟩ := List.mem_map.mp hrow
  have hops := List.all_eq_true.mp h m (List.of_mem_zip hm).1
  exact List.all_eq_true.mp hops x.1 (List.of_mem_zip hx).1

/-- The second pass over a typed plan, with a verdict for every operation, has a result. -/
theorem sequence_total {p : Plan} {verdicts : List (List Verdict)} (h : p.isTyped = true)
    (ha : aligned p verdicts = true) : ∃ s, (sequence p verdicts).outcome = .ok s := by
  obtain ⟨exemptedVerdicts, hexempt⟩ : ∃ out, exemptRows (rowsOf p verdicts) = .ok out :=
    mapM_total fun row hrow => exemptRow_total [] (isTyped_rowsOf h verdicts row hrow)
  obtain ⟨violations, hviolations⟩ := findings_total h
  obtain ⟨refined, hrefine⟩ := refineRows_total (s := .empty) (isTyped_rowsOf h exemptedVerdicts)
  exact ⟨⟨refined, violations⟩,
    sequence_iff.mpr ⟨ha, exemptedVerdicts, hexempt, hrefine, hviolations⟩⟩

end MigrationSafety
