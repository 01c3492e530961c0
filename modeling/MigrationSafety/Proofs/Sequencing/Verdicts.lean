import MigrationSafety.Proofs.Outcome
import MigrationSafety.Proofs.Sequencing.History
import MigrationSafety.Proofs.Value.Equality

/-!
# The verdicts of the second pass

What the second pass makes of one verdict, from the verdict, its operation and the operations that
run before it. First the pass for new tables, which looks at the migration only (`exempted`); then
the answer to a pending question about NOT NULL, from what the operations of the whole plan have
proved until then (`NotNullState.run`).

* `exempted_eq`: which verdicts the pass for new tables makes safe;
* `exemptRow_eq_ok`, `refineRow_eq_ok`: the two passes over one migration;
* `cell?_exemptRows`, `cell?_refineRows`: the verdict at a place after each pass;
* `sequence_verdict`, `answer_of_sequence`: the verdict at a place after both.
-/

namespace MigrationSafety

/-! ## New tables -/

/-- The rule of verdicts about operations on new tables. -/
def newTableRule : String := "new-table"

/-- The verdict about an operation after the pass for new tables, given the tables that its
migration has created before. An operation that creates a table itself is left alone. -/
def exempted (v : Verdict) (op : Operation) (created : List Value) : Verdict :=
  if op.createdTable?.isSome then v else v.exempt op created

/-- The pass for new tables makes a verdict safe if it names a danger that does not matter for a
new table, and the migration has created a table of that name before; it leaves all others. -/
theorem exempted_eq (v : Verdict) (op : Operation) (created : List Value) :
    exempted v op created =
      if op.createdTable?.isNone && op.table.among created && exemptRules.contains v.rule then
        v.onNewTable op.table
      else v := by
  cases op <;> simp [exempted, Verdict.exempt, Operation.createdTable?]

/-- Whether an operation is about a table that its migration has created before. -/
def Operation.onNewTable (op : Operation) (created : List Value) : Bool :=
  op.createdTable?.isNone && op.table.among created

/-- Whether a verdict names a danger that does not matter, because its operation is about a table
that its migration has created before. -/
def Verdict.IsExempt (v : Verdict) (op : Operation) (created : List Value) : Prop :=
  op.onNewTable created = true ∧ v.rule ∈ exemptRules

section
variable {op : Operation} {created : List Value} {v : Verdict}

theorem exempted_of_isExempt (h : v.IsExempt op created) :
    exempted v op created = v.onNewTable op.table := by
  rw [exempted_eq, if_pos]
  exact (Bool.and_eq_true _ _).mpr ⟨h.1, List.contains_iff_mem.mpr h.2⟩

theorem exempted_of_not_isExempt (h : ¬v.IsExempt op created) : exempted v op created = v := by
  rw [exempted_eq, if_neg]
  intro hexempt
  obtain ⟨hnew, hrule⟩ := (Bool.and_eq_true _ _).mp hexempt
  exact h ⟨hnew, List.contains_iff_mem.mp hrule⟩

end

theorem createdTables_append (ops ops' : List Operation) :
    createdTables (ops ++ ops') = createdTables ops ++ createdTables ops' :=
  List.filterMap_append

theorem among_append (v : Value) (xs ys : List Value) :
    v.among (xs ++ ys) = (v.among xs || v.among ys) :=
  List.any_append

/-- Whether an operation creates a table of a name. -/
def Operation.creates (name : Value) (op : Operation) : Bool :=
  op.createdTable?.any name.equal

theorem Operation.creates_iff {name : Value} {op : Operation} :
    op.creates name = true ↔
      ∃ table force, op = .createTable table force ∧ name.equal table = true := by
  cases op <;> simp [creates, createdTable?]

/-- Whether a name is among those of the tables that some operations create. -/
theorem among_createdTables (name : Value) (ops : List Operation) :
    name.among (createdTables ops) = ops.any (·.creates name) := by
  simp only [Value.among, createdTables, List.any_filterMap]
  congr

/-- Only which values are among the created tables matters. -/
theorem exempted_congr (v : Verdict) (op : Operation) {created created' : List Value}
    (h : ∀ t : Value, t.among created = t.among created') :
    exempted v op created = exempted v op created' := by
  simp only [exempted, Verdict.exempt, h]

/-- One step of the pass for new tables. -/
theorem exemptRow_cons_eq_ok {created : List Value} {op : Operation} {v : Verdict}
    {row : List (Operation × Verdict)} {out : List Verdict} :
    exemptRow created ((op, v) :: row) = .ok out ↔
      op.table.isScalar = true ∧ ∃ out',
        exemptRow (op.createdTable?.toList ++ created) row = .ok out' ∧
          exempted v op created :: out' = out := by
  cases op <;>
    simp [exemptRow, bind_eq_ok, Value.asKey_eq_ok, exempted, Operation.createdTable?,
      Operation.table]

/-- The pass for new tables over a migration, where `earlier` are the operations before those of
the row. -/
theorem exemptRow_eq_ok {created : List Value} {earlier : List Operation}
    (hc : ∀ t : Value, t.among created = t.among (createdTables earlier))
    {row : List (Operation × Verdict)} {out : List Verdict} (h : exemptRow created row = .ok out) :
    out.length = row.length ∧ ∀ j op v, row[j]? = some (op, v) →
      out[j]? = some (exempted v op (createdTables (earlier ++ (row.take j).map Prod.fst))) := by
  induction row generalizing created earlier out with
  | nil =>
    cases h
    exact ⟨rfl, fun j op v hj => by simp at hj⟩
  | cons x row ih =>
    obtain ⟨op, v⟩ := x
    obtain ⟨-, out', hout, rfl⟩ := exemptRow_cons_eq_ok.mp h
    have hc' (t : Value) : t.among (op.createdTable?.toList ++ created) =
        t.among (createdTables (earlier ++ [op])) := by
      have hop : createdTables [op] = op.createdTable?.toList := by
        cases ho : op.createdTable? <;> simp [createdTables, ho]
      rw [createdTables_append, among_append, among_append, hc, hop, Bool.or_comm]
    obtain ⟨hl, hcell⟩ := ih hc' hout
    refine ⟨by rw [List.length_cons, List.length_cons, hl], fun j op' v' hj => ?_⟩
    cases j with
    | zero =>
      simp only [List.getElem?_cons_zero, Option.some.injEq, Prod.mk.injEq] at hj
      obtain ⟨rfl, rfl⟩ := hj
      rw [List.getElem?_cons_zero, exempted_congr v op hc, List.take_zero, List.map_nil,
        List.append_nil]
    | succ j =>
      rw [List.getElem?_cons_succ] at hj ⊢
      rw [hcell j op' v' hj, List.take_succ_cons, List.map_cons, List.append_assoc,
        List.singleton_append]

/-- The pass for new tables over a whole migration. -/
theorem exemptRow_nil_eq_ok {row : List (Operation × Verdict)} {out : List Verdict}
    (h : exemptRow [] row = .ok out) :
    out.length = row.length ∧ ∀ j op v, row[j]? = some (op, v) →
      out[j]? = some (exempted v op (createdTables ((row.take j).map Prod.fst))) := by
  have hc (t : Value) : t.among [] = t.among (createdTables []) := rfl
  simpa only [List.nil_append] using exemptRow_eq_ok hc h

theorem isScalar_table_of_exemptRow {created : List Value} {row : List (Operation × Verdict)}
    {out : List Verdict} (h : exemptRow created row = .ok out) :
    ∀ x ∈ row, x.1.table.isScalar = true := by
  induction row generalizing created out with
  | nil => simp
  | cons x row ih =>
    obtain ⟨hx, _, hout, -⟩ := exemptRow_cons_eq_ok.mp h
    exact List.forall_mem_cons.mpr ⟨hx, ih hout⟩

theorem length_of_exemptRows {rows : List (List (Operation × Verdict))} {out : List (List Verdict)}
    (h : exemptRows rows = .ok out) : out.map List.length = rows.map List.length := by
  induction mapM_eq_ok.mp h with
  | nil => rfl
  | cons hrow _ ih =>
    rw [List.map_cons, List.map_cons, (exemptRow_nil_eq_ok hrow).1, ih (mapM_eq_ok.mpr ‹_›)]

/-- The pass for new tables takes each migration for itself. -/
theorem exemptRows_cons_eq_ok {row : List (Operation × Verdict)}
    {rows : List (List (Operation × Verdict))} {out : List (List Verdict)} :
    exemptRows (row :: rows) = .ok out ↔ ∃ row' out', exemptRow [] row = .ok row' ∧
      exemptRows rows = .ok out' ∧ row' :: out' = out := by
  simp only [exemptRows, mapM_eq_ok, List.forall₂_cons_left_iff, eq_comm (a := out)]

/-- The verdict at a place after the pass for new tables. -/
theorem cell?_exemptRows {rows : List (List (Operation × Verdict))} {out : List (List Verdict)}
    (h : exemptRows rows = .ok out) {i j : Nat} {op : Operation} {v : Verdict}
    (hx : cell? rows i j = some (op, v)) :
    cell? out i j = some (exempted v op (createdTables ((earlierIn rows i j).map Prod.fst))) := by
  obtain ⟨row, hi, hj⟩ := cell?_eq_some.mp hx
  obtain ⟨row', hi', hrow⟩ := getElem?_of_forall₂ (mapM_eq_ok.mp h) hi
  refine cell?_eq_some.mpr ⟨row', hi', ?_⟩
  rw [(exemptRow_nil_eq_ok hrow).2 j op v hj, earlierIn_of_getElem? hi]

/-! ## NOT NULL -/

namespace NotNullState

/-- What is known after some operations. -/
def run (s : NotNullState) (ops : List Operation) : Outcome NotNullState :=
  ops.foldlM step s

theorem run_nil_eq_ok {s t : NotNullState} : s.run [] = .ok t ↔ s = t := by
  simp [run, pure, Except.pure]

theorem run_cons_eq_ok {s t : NotNullState} {op : Operation} {ops : List Operation} :
    s.run (op :: ops) = .ok t ↔ ∃ s', s.step op = .ok s' ∧ s'.run ops = .ok t := by
  rw [run, List.foldlM_cons, bind_eq_ok]
  rfl

theorem run_append_eq_ok {s t : NotNullState} {ops ops' : List Operation} :
    s.run (ops ++ ops') = .ok t ↔ ∃ s', s.run ops = .ok s' ∧ s'.run ops' = .ok t := by
  rw [run, List.foldlM_append, bind_eq_ok]
  rfl

/-- What may be answered: a verdict that asks nothing stays; one that asks whether NOT NULL is
proved becomes safe or unsafe. -/
theorem answer_cases {s : NotNullState} {v w : Verdict} {op : Operation}
    (h : s.answer v op = .ok w) :
    (w = v ∧ ∀ table column validate, op = .setNotNull table column validate →
      v.rule ≠ pendingNotNullRule) ∨
    ∃ table column validate, op = .setNotNull table column validate ∧
      v.rule = pendingNotNullRule ∧ table.isScalar = true ∧ column.isScalar = true ∧
      w = if s.isProved table column then v.afterCheck table column
        else v.withoutCheck table column := by
  cases op
  case setNotNull table column validate =>
    rw [answer] at h
    split at h
    · rename_i hr
      simp only [bind_eq_ok, Value.asKey_eq_ok] at h
      obtain ⟨_, ⟨ht, rfl⟩, _, ⟨hc, rfl⟩, h⟩ := h
      exact .inr ⟨_, _, _, rfl, beq_iff_eq.mp hr, ht, hc, (Except.ok.inj h).symm⟩
    · rename_i hr
      exact .inl ⟨(Except.ok.inj h).symm, fun _ _ _ _ hp => hr (beq_iff_eq.mpr hp)⟩
  all_goals exact .inl ⟨(Except.ok.inj h).symm, fun _ _ _ ho => by cases ho⟩

end NotNullState

/-- Whether a verdict asks whether an operation that declares NOT NULL is proved safe. -/
def Verdict.IsPending (v : Verdict) (op : Operation) : Prop :=
  (∃ table column validate, op = .setNotNull table column validate) ∧ v.rule = pendingNotNullRule

/-- A verdict that asks nothing about NOT NULL is left alone. -/
theorem answer_of_not_isPending {known : NotNullState} {v : Verdict} {op : Operation}
    (h : ¬v.IsPending op) : known.answer v op = .ok v := by
  cases op
  case setNotNull table column validate =>
    have hrule : v.rule ≠ pendingNotNullRule := fun hrule => h ⟨⟨_, _, _, rfl⟩, hrule⟩
    rw [NotNullState.answer, if_neg (mt beq_iff_eq.mp hrule)]
  all_goals rfl

/-- One step of the pass for NOT NULL. -/
theorem refineRow_cons_eq_ok {s t : NotNullState} {op : Operation} {v : Verdict}
    {row : List (Operation × Verdict)} {out : List Verdict} :
    refineRow s ((op, v) :: row) = .ok (t, out) ↔ ∃ w s' out', s.answer v op = .ok w ∧
      s.step op = .ok s' ∧ refineRow s' row = .ok (t, out') ∧ w :: out' = out := by
  simp only [refineRow, bind_eq_ok, Except.ok.injEq, Prod.exists, Prod.mk.injEq]
  grind

/-- The pass for NOT NULL over a migration. -/
theorem refineRow_eq_ok {s t : NotNullState} {row : List (Operation × Verdict)}
    {out : List Verdict} (h : refineRow s row = .ok (t, out)) :
    s.run (row.map Prod.fst) = .ok t ∧ out.length = row.length ∧
      ∀ j op v, row[j]? = some (op, v) → ∃ s' w, s.run ((row.take j).map Prod.fst) = .ok s' ∧
        s'.answer v op = .ok w ∧ out[j]? = some w := by
  induction row generalizing s out with
  | nil =>
    cases h
    exact ⟨NotNullState.run_nil_eq_ok.mpr rfl, rfl, fun j op v hj => by simp at hj⟩
  | cons x row ih =>
    obtain ⟨op, v⟩ := x
    obtain ⟨w, s₁, out', hw, hs₁, hrow, rfl⟩ := refineRow_cons_eq_ok.mp h
    obtain ⟨hrun, hl, hcell⟩ := ih hrow
    refine ⟨NotNullState.run_cons_eq_ok.mpr ⟨s₁, hs₁, hrun⟩,
      by rw [List.length_cons, List.length_cons, hl], fun j op' v' hj => ?_⟩
    cases j with
    | zero =>
      simp only [List.getElem?_cons_zero, Option.some.injEq, Prod.mk.injEq] at hj
      obtain ⟨rfl, rfl⟩ := hj
      exact ⟨s, w, NotNullState.run_nil_eq_ok.mpr rfl, hw, List.getElem?_cons_zero⟩
    | succ j =>
      rw [List.getElem?_cons_succ] at hj
      obtain ⟨s', w', hs', hw', hj'⟩ := hcell j op' v' hj
      exact ⟨s', w', NotNullState.run_cons_eq_ok.mpr ⟨s₁, hs₁, hs'⟩, hw', by
        rw [List.getElem?_cons_succ, hj']⟩

/-- The pass for NOT NULL takes what is known after a migration to the next one. -/
theorem refineRows_cons_eq_ok {s : NotNullState} {row : List (Operation × Verdict)}
    {rows : List (List (Operation × Verdict))} {out : List (List Verdict)} :
    refineRows s (row :: rows) = .ok out ↔ ∃ t row' out', refineRow s row = .ok (t, row') ∧
      refineRows t rows = .ok out' ∧ row' :: out' = out := by
  simp only [refineRows, bind_eq_ok, Except.ok.injEq, Prod.exists, exists_and_left]

/-- The pass for NOT NULL over a plan, migration by migration. -/
theorem refineRows_eq_ok {s : NotNullState} {rows : List (List (Operation × Verdict))}
    {out : List (List Verdict)} (h : refineRows s rows = .ok out) :
    out.length = rows.length ∧ ∀ i row, rows[i]? = some row → ∃ s' t row',
      s.run ((rows.take i).flatten.map Prod.fst) = .ok s' ∧ refineRow s' row = .ok (t, row') ∧
        out[i]? = some row' := by
  induction rows generalizing s out with
  | nil =>
    cases h
    exact ⟨rfl, fun i row hi => by simp at hi⟩
  | cons row rows ih =>
    obtain ⟨t, row', out', hrow, hrows, rfl⟩ := refineRows_cons_eq_ok.mp h
    obtain ⟨hl, hcell⟩ := ih hrows
    refine ⟨by rw [List.length_cons, List.length_cons, hl], fun i r hi => ?_⟩
    cases i with
    | zero =>
      simp only [List.getElem?_cons_zero, Option.some.injEq] at hi
      subst hi
      exact ⟨s, t, row', NotNullState.run_nil_eq_ok.mpr rfl, hrow, List.getElem?_cons_zero⟩
    | succ i =>
      rw [List.getElem?_cons_succ] at hi
      obtain ⟨s', t', r', hs', hr, hi'⟩ := hcell i r hi
      refine ⟨s', t', r', ?_, hr, by rw [List.getElem?_cons_succ, hi']⟩
      rw [List.take_succ_cons, List.flatten_cons, List.map_append]
      exact NotNullState.run_append_eq_ok.mpr ⟨t, (refineRow_eq_ok hrow).1, hs'⟩

/-- The pass for NOT NULL keeps the shape of the verdicts. -/
theorem length_of_refineRows {s : NotNullState} {rows : List (List (Operation × Verdict))}
    {out : List (List Verdict)} (h : refineRows s rows = .ok out) :
    out.map List.length = rows.map List.length := by
  induction rows generalizing s out with
  | nil =>
    cases h
    rfl
  | cons row rows ih =>
    obtain ⟨t, row', out', hrow, hrows, rfl⟩ := refineRows_cons_eq_ok.mp h
    rw [List.map_cons, List.map_cons, (refineRow_eq_ok hrow).2.1, ih hrows]

/-- The verdict at a place after the pass for NOT NULL. -/
theorem cell?_refineRows {s : NotNullState} {rows : List (List (Operation × Verdict))}
    {out : List (List Verdict)} (h : refineRows s rows = .ok out) {i j : Nat} {op : Operation}
    {v : Verdict} (hx : cell? rows i j = some (op, v)) :
    ∃ s' w, s.run ((historyIn rows i j).map Prod.fst) = .ok s' ∧ s'.answer v op = .ok w ∧
      cell? out i j = some w := by
  obtain ⟨row, hi, hj⟩ := cell?_eq_some.mp hx
  obtain ⟨s₁, t, row', hs₁, hrow, hi'⟩ := (refineRows_eq_ok h).2 i row hi
  obtain ⟨s', w, hs', hw, hj'⟩ := (refineRow_eq_ok hrow).2.2 j op v hj
  refine ⟨s', w, ?_, hw, cell?_eq_some.mpr ⟨row', hi', hj'⟩⟩
  rw [historyIn, earlierIn_of_getElem? hi, List.map_append]
  exact NotNullState.run_append_eq_ok.mpr ⟨s₁, hs₁, hs'⟩

/-! ## Both passes -/

/-- The parts of the second pass. -/
theorem sequence_eq_ok {p : Plan} {verdicts : List (List Verdict)} {s : Sequenced} :
    (sequence p verdicts).outcome = .ok s ↔ aligned p verdicts = true ∧ ∃ exemptedVerdicts isolation
      validation, exemptRows (rowsOf p verdicts) = .ok exemptedVerdicts ∧
        (isolationViolations p).outcome = .ok isolation ∧
        (validationViolations p).outcome = .ok validation ∧
        refineRows .empty (rowsOf p exemptedVerdicts) = .ok s.verdicts ∧
        isolation ++ validation = s.violations := by
  obtain ⟨sv, sx⟩ := s
  unfold sequence
  cases ha : aligned p verdicts
  · simp
  · simp [Traced.outcome_bind_eq_ok, -Traced.outcome_bind]

/-- Verdicts of the shape of the rows of a plan are aligned. -/
theorem aligned_of_shape {p : Plan} {verdicts out : List (List Verdict)}
    (ha : aligned p verdicts = true)
    (h : out.map List.length = (rowsOf p verdicts).map List.length) : aligned p out = true := by
  rw [aligned_iff, h]
  conv_lhs => rw [← map_fst_rowsOf ha]
  simp only [List.map_map, Function.comp_def, List.length_map]

/-- The pass for new tables keeps the shape of the verdicts. -/
theorem aligned_of_exemptRows {p : Plan} {verdicts exemptedVerdicts : List (List Verdict)}
    (ha : aligned p verdicts = true) (h : exemptRows (rowsOf p verdicts) = .ok exemptedVerdicts) :
    aligned p exemptedVerdicts = true :=
  aligned_of_shape ha (length_of_exemptRows h)

/-- The verdict at a place of a plan after the pass for NOT NULL. -/
theorem answer_of_refineRows {p : Plan} {verdicts out : List (List Verdict)}
    (ha : aligned p verdicts = true) (h : refineRows .empty (rowsOf p verdicts) = .ok out)
    {i j : Nat} {op : Operation} {v : Verdict} (ho : p.operation? i j = some op)
    (hv : cell? verdicts i j = some v) :
    ∃ known w, NotNullState.empty.run (p.history i j) = .ok known ∧ known.answer v op = .ok w ∧
      cell? out i j = some w := by
  obtain ⟨known, w, hrun, hw, hout⟩ := cell?_refineRows h (cell?_rowsOf ho hv)
  rw [map_historyIn, map_fst_rowsOf ha] at hrun
  exact ⟨known, w, hrun, hw, hout⟩

/-- The second pass keeps the shape of the verdicts. -/
theorem aligned_of_sequence {p : Plan} {verdicts : List (List Verdict)} {s : Sequenced}
    (h : (sequence p verdicts).outcome = .ok s) : aligned p s.verdicts = true := by
  obtain ⟨ha, exemptedVerdicts, _, _, hexempt, -, -, hrefine, -⟩ := sequence_eq_ok.mp h
  exact aligned_of_shape (aligned_of_exemptRows ha hexempt) (length_of_refineRows hrefine)

/-- The violations that the second pass finds do not hang on the verdicts. -/
theorem violations_unique {p : Plan} {verdicts verdicts' : List (List Verdict)} {s s' : Sequenced}
    (h : (sequence p verdicts).outcome = .ok s) (h' : (sequence p verdicts').outcome = .ok s') :
    s.violations = s'.violations := by
  obtain ⟨-, _, isolation, validation, -, hi, hv, -, hs⟩ := sequence_eq_ok.mp h
  obtain ⟨-, _, isolation', validation', -, hi', hv', -, hs'⟩ := sequence_eq_ok.mp h'
  rw [hi, Except.ok.injEq] at hi'
  rw [hv, Except.ok.injEq] at hv'
  rw [← hs, ← hs', hi', hv']

/-- The verdict at a place after the second pass: the exempted verdict, and its question about
NOT NULL, if it is one, answered from what the history has proved. -/
theorem sequence_verdict {p : Plan} {verdicts : List (List Verdict)} {s : Sequenced}
    (h : (sequence p verdicts).outcome = .ok s) {i j : Nat} {op : Operation} {v : Verdict}
    (ho : p.operation? i j = some op) (hv : cell? verdicts i j = some v) :
    ∃ known w, NotNullState.empty.run (p.history i j) = .ok known ∧
      known.answer (exempted v op (createdTables (p.earlier i j))) op = .ok w ∧
      cell? s.verdicts i j = some w := by
  obtain ⟨ha, exemptedVerdicts, _, _, hexempt, -, -, hrefine, -⟩ := sequence_eq_ok.mp h
  have hcell := cell?_exemptRows hexempt (cell?_rowsOf ho hv)
  rw [map_earlierIn, map_fst_rowsOf ha] at hcell
  exact answer_of_refineRows (aligned_of_exemptRows ha hexempt) hrefine ho hcell

/-- The same, for a verdict that is known to be at the place. -/
theorem answer_of_sequence {p : Plan} {verdicts : List (List Verdict)} {s : Sequenced}
    (h : (sequence p verdicts).outcome = .ok s) {i j : Nat} {op : Operation} {v w : Verdict}
    (ho : p.operation? i j = some op) (hv : cell? verdicts i j = some v)
    (hw : cell? s.verdicts i j = some w) :
    ∃ known, NotNullState.empty.run (p.history i j) = .ok known ∧
      known.answer (exempted v op (createdTables (p.earlier i j))) op = .ok w := by
  obtain ⟨known, w', hrun, hanswer, hw'⟩ := sequence_verdict h ho hv
  rw [hw, Option.some.injEq] at hw'
  exact ⟨known, hrun, hw' ▸ hanswer⟩

/-- Where the second pass has a result, every table can serve as a key. -/
theorem isScalar_table_of_sequence {p : Plan} {verdicts : List (List Verdict)} {s : Sequenced}
    (h : (sequence p verdicts).outcome = .ok s) {ops : List Operation} (hops : ops ∈ p.grid)
    {op : Operation} (hop : op ∈ ops) : op.table.isScalar = true := by
  obtain ⟨ha, _, _, _, hexempt, -⟩ := sequence_eq_ok.mp h
  rw [← map_fst_rowsOf ha] at hops
  obtain ⟨row, hrow, rfl⟩ := List.mem_map.mp hops
  obtain ⟨x, hx, rfl⟩ := List.mem_map.mp hop
  obtain ⟨i, hi⟩ := List.getElem?_of_mem hrow
  obtain ⟨_, -, hout⟩ := getElem?_of_forall₂ (mapM_eq_ok.mp hexempt) hi
  exact isScalar_table_of_exemptRow hout x hx

end MigrationSafety
