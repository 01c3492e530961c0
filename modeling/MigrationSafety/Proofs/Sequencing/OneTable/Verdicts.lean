import MigrationSafety.Proofs.Sequencing.NotNull
import MigrationSafety.Proofs.Sequencing.OneTable.Plan

/-!
# The verdicts about one table

Both passes over the verdicts look things up by table: which tables a migration has created, which
columns of a table are proved, which of its checks wait for their validation. An operation on
another table changes nothing of what is looked up for this one. So the passes can be run over the
operations on the table alone, with what is known about it.

* `exempted_congr_on`, `exemptRow_on`: the pass for new tables;
* `NotNullState.onTable`: what is known about the columns of a table;
* `NotNullState.step_on`, `NotNullState.step_off`: one operation, on the table or not;
* `refineRow_on`: the pass for NOT NULL;
* `exemptRows_onTable`, `refineRows_onTable`: both passes over a plan.
-/

namespace MigrationSafety

/-- The verdicts about operations on a table, of those beside a row. -/
def verdictsBeside (t : String) (row : List (Operation × Verdict)) (out : List Verdict) :
    List Verdict :=
  (rowOn t ((row.map Prod.fst).zip out)).map Prod.snd

section
variable {t : String} {op : Operation} {v : Verdict}

theorem verdictsBeside_cons_on (h : op.isOn t = true) (row : List (Operation × Verdict))
    (w : Verdict) (out : List Verdict) :
    verdictsBeside t ((op, v) :: row) (w :: out) = w :: verdictsBeside t row out := by
  simp [verdictsBeside, rowOn, h]

theorem verdictsBeside_cons_off (h : op.isOn t = false) (row : List (Operation × Verdict))
    (w : Verdict) (out : List Verdict) :
    verdictsBeside t ((op, v) :: row) (w :: out) = verdictsBeside t row out := by
  simp [verdictsBeside, rowOn, h]

theorem rowOn_cons_on (h : op.isOn t = true) (row : List (Operation × Verdict)) :
    rowOn t ((op, v) :: row) = (op, v) :: rowOn t row :=
  List.filter_cons_of_pos h

theorem rowOn_cons_off (h : op.isOn t = false) (row : List (Operation × Verdict)) :
    rowOn t ((op, v) :: row) = rowOn t row :=
  List.filter_cons_of_neg (Bool.eq_false_iff.mp h)

/-! ## New tables -/

/-- An operation on another table does not create this one. -/
theorem among_createdTable?_off (h : op.isOn t = false) (created : List Value) :
    (Value.text t).among (op.createdTable?.toList ++ created) = (Value.text t).among created := by
  have hother : (Value.text t).among op.createdTable?.toList = false := by
    have hcreates : op.creates (.text t) = false := by
      rw [Bool.eq_false_iff]
      exact fun hcreates => Bool.eq_false_iff.mp h (Operation.isOn_of_creates hcreates)
    rw [← hcreates, Operation.creates, Value.among]
    cases op.createdTable? <;> simp
  rw [among_append, hother, Bool.false_or]

/-- Only whether the table itself has been created matters to an operation on it. -/
theorem exempted_congr_on (h : op.isOn t = true) {created created' : List Value}
    (hcreated : (Value.text t).among created = (Value.text t).among created') :
    exempted v op created = exempted v op created' := by
  rw [exempted_eq, exempted_eq, Operation.isOn_iff.mp h, hcreated]

/-- The pass for new tables over the operations of a migration on one table. -/
theorem exemptRow_on {created created' : List Value}
    (hcreated : (Value.text t).among created = (Value.text t).among created')
    {row : List (Operation × Verdict)} {out : List Verdict} (h : exemptRow created row = .ok out) :
    exemptRow created' (rowOn t row) = .ok (verdictsBeside t row out) := by
  -- The two lists of created tables may differ in other tables: nothing on this one asks for them.
  induction row generalizing created created' out with
  | nil =>
    cases h
    rfl
  | cons x row ih =>
    obtain ⟨op, v⟩ := x
    obtain ⟨hscalar, out', hout, rfl⟩ := exemptRow_cons_eq_ok.mp h
    cases hop : op.isOn t with
    | true =>
      have hcreated' : (Value.text t).among (op.createdTable?.toList ++ created) =
          (Value.text t).among (op.createdTable?.toList ++ created') := by
        rw [among_append, among_append, hcreated]
      rw [rowOn_cons_on hop, verdictsBeside_cons_on hop]
      exact exemptRow_cons_eq_ok.mpr
        ⟨hscalar, _, ih hcreated' hout, by rw [exempted_congr_on hop hcreated]⟩
    | false =>
      rw [rowOn_cons_off hop, verdictsBeside_cons_off hop]
      exact ih ((among_createdTable?_off hop created).trans hcreated) hout

/-- The pass for new tables over the operations of a plan on one table. -/
theorem exemptRows_on {rows : List (List (Operation × Verdict))} {out : List (List Verdict)}
    (h : exemptRows rows = .ok out) :
    exemptRows (rows.map (rowOn t)) = .ok (List.zipWith (verdictsBeside t) rows out) := by
  refine mapM_eq_ok.mpr ?_
  induction mapM_eq_ok.mp h with
  | nil => exact .nil
  | cons hrow _ ih => exact .cons (exemptRow_on rfl hrow) (ih (mapM_eq_ok.mpr ‹_›))

/-! ## NOT NULL -/

namespace NotNullState

/-- What is known about the columns of a table. -/
def onTable (t : String) (s : NotNullState) : NotNullState where
  proved := s.proved.filter (·.1.equal (.text t))
  pending := s.pending.filter (·.1.1.equal (.text t))

variable {s s' : NotNullState}

theorem isKey_on {name : Value} {entry : (Value × Value) × String}
    (h : isKey (.text t) name entry = true) : entry.1.1.equal (.text t) = true :=
  ((Bool.and_eq_true _ _).mp h).1

/-- A check on another table has another key than every check on this one. -/
theorem isKey_off {table name : Value} (h : table.equal (.text t) = false)
    {entry : (Value × Value) × String} (hentry : entry.1.1.equal (.text t) = true) :
    isKey table name entry = false := by
  rw [isKey, Value.equal_text_right.mp hentry, Bool.and_eq_false_iff]
  refine .inl (Bool.eq_false_iff.mpr fun hequal => ?_)
  exact absurd (Value.equal_text_right.mpr (Value.equal_text_left.mp hequal))
    (Bool.eq_false_iff.mp h)

/-- Taking out a check on another table takes out none on this one. -/
theorem filter_pending_off {table name : Value} (h : table.equal (.text t) = false)
    (pending : List ((Value × Value) × String)) :
    (pending.filter (!isKey table name ·)).filter (·.1.1.equal (.text t)) =
      pending.filter (·.1.1.equal (.text t)) := by
  rw [List.filter_filter]
  refine List.filter_congr fun entry _ => ?_
  cases hentry : entry.1.1.equal (.text t) with
  | true => rw [isKey_off h hentry]; rfl
  | false => rfl

/-- A check on the table is found among those on it. -/
theorem find?_pending_on (name : Value) (s : NotNullState) :
    (s.onTable t).pending.find? (isKey (.text t) name) =
      s.pending.find? (isKey (.text t) name) := by
  rw [onTable, List.find?_filter]
  congr 1
  funext entry
  cases hkey : isKey (.text t) name entry with
  | true => simp [isKey_on hkey]
  | false => simp

theorem prove_on (s : NotNullState) (column : String) :
    (s.prove (.text t) column).onTable t = (s.onTable t).prove (.text t) column := by
  simp [prove, onTable]

theorem prove_off {table : Value} (h : table.equal (.text t) = false) (s : NotNullState)
    (column : String) : (s.prove table column).onTable t = s.onTable t := by
  simp [prove, onTable, h]

theorem await_on (s : NotNullState) (name : Value) (column : String) :
    (s.await (.text t) name column).onTable t = (s.onTable t).await (.text t) name column := by
  simp [await, onTable, List.filter_comm (!isKey (.text t) name ·)]

theorem await_off {table : Value} (h : table.equal (.text t) = false) (s : NotNullState)
    (name : Value) (column : String) :
    (s.await table name column).onTable t = s.onTable t := by
  simp [await, onTable, h, filter_pending_off h]

theorem validate_on (s : NotNullState) (name : Value) :
    (s.validate (.text t) name).onTable t = (s.onTable t).validate (.text t) name := by
  rw [validate, validate, find?_pending_on]
  cases s.pending.find? (isKey (.text t) name) with
  | none => rfl
  | some entry => simp [onTable, List.filter_comm (!isKey (.text t) name ·)]

theorem validate_off {table : Value} (h : table.equal (.text t) = false) (s : NotNullState)
    (name : Value) : (s.validate table name).onTable t = s.onTable t := by
  rw [validate]
  cases s.pending.find? (isKey table name) with
  | none => rfl
  | some entry => simp [onTable, h, filter_pending_off h]

/-- An operation on the table does to what is known about it what it does to all that is known. -/
theorem step_on (h : op.isOn t = true) (hstep : s.step op = .ok s') :
    (s.onTable t).step op = .ok (s'.onTable t) := by
  have htable := Operation.isOn_iff.mp h
  refine Step.eq_ok ?_
  cases step_eq_ok hstep with
  | other hcheck => exact .other hcheck
  | silent hcolumn => exact .silent hcolumn
  | prove hcolumn hscalar =>
    cases htable
    exact prove_on s _ ▸ .prove hcolumn hscalar
  | await hcolumn hscalar hname =>
    cases htable
    exact await_on s _ _ ▸ .await hcolumn hscalar hname
  | validate hkey =>
    cases htable
    refine validate_on s _ ▸ .validate (hkey.imp_left fun hnil => ?_)
    rw [onTable, hnil, List.filter_nil]

/-- An operation on another table does nothing to what is known about this one. -/
theorem step_off (h : op.isOn t = false) (hstep : s.step op = .ok s') :
    s'.onTable t = s.onTable t := by
  cases step_eq_ok hstep with
  | other | silent => rfl
  | prove => exact prove_off h s _
  | await => exact await_off h s _ _
  | validate => exact validate_off h s _

theorem isProved_on (s : NotNullState) (column : Value) :
    (s.onTable t).isProved (.text t) column = s.isProved (.text t) column := by
  rw [isProved, isProved, onTable, List.any_filter]
  congr 1
  funext entry
  cases hequal : (Value.text t).equal entry.1 with
  | true => simp [Value.equal_text_left.mp hequal]
  | false => simp [hequal]

/-- A question about the table is answered from what is known about it. -/
theorem answer_on (h : op.isOn t = true) (s : NotNullState) (v : Verdict) :
    (s.onTable t).answer v op = s.answer v op := by
  have htable := Operation.isOn_iff.mp h
  cases op with
  | setNotNull table column validate =>
    obtain rfl : table = .text t := htable
    simp only [answer, Value.asKey_of_isScalar (v := .text t) rfl, bind, Except.bind,
      isProved_on]
  | _ => rfl

end NotNullState

/-- The pass for NOT NULL over the operations of a migration on one table. -/
theorem refineRow_on {s s' : NotNullState} {row : List (Operation × Verdict)} {out : List Verdict}
    (h : refineRow s row = .ok (s', out)) :
    refineRow (s.onTable t) (rowOn t row) = .ok (s'.onTable t, verdictsBeside t row out) := by
  -- What is passed over changes nothing that is known about the table.
  induction row generalizing s out with
  | nil =>
    cases h
    rfl
  | cons x row ih =>
    obtain ⟨op, v⟩ := x
    obtain ⟨w, s₁, out', hw, hs₁, hrow, rfl⟩ := refineRow_cons_eq_ok.mp h
    cases hop : op.isOn t with
    | true =>
      rw [rowOn_cons_on hop, verdictsBeside_cons_on hop]
      exact refineRow_cons_eq_ok.mpr ⟨w, s₁.onTable t, _, (NotNullState.answer_on hop s v).trans hw,
        NotNullState.step_on hop hs₁, ih hrow, rfl⟩
    | false =>
      rw [rowOn_cons_off hop, verdictsBeside_cons_off hop, ← NotNullState.step_off hop hs₁]
      exact ih hrow

/-- The pass for NOT NULL over the operations of a plan on one table. -/
theorem refineRows_on {s : NotNullState} {rows : List (List (Operation × Verdict))}
    {out : List (List Verdict)} (h : refineRows s rows = .ok out) :
    refineRows (s.onTable t) (rows.map (rowOn t)) =
      .ok (List.zipWith (verdictsBeside t) rows out) := by
  induction rows generalizing s out with
  | nil =>
    cases h
    rfl
  | cons row rows ih =>
    obtain ⟨s', row', out', hrow, hrows, rfl⟩ := refineRows_cons_eq_ok.mp h
    exact refineRows_cons_eq_ok.mpr ⟨s'.onTable t, _, _, refineRow_on hrow, ih hrows, rfl⟩

/-! ## Plans -/

variable {p : Plan} {verdicts : List (List Verdict)}

theorem zipWith_verdictsBeside (ha : aligned p verdicts = true) (out : List (List Verdict)) :
    List.zipWith (verdictsBeside t) (rowsOf p verdicts) out = p.verdictsOn t out := by
  rw [Plan.verdictsOn, rowsOf_eq_zipWith p out, ← map_fst_rowsOf ha, List.map_zipWith,
    List.zipWith_map_left]
  rfl

theorem exemptRows_onTable {out : List (List Verdict)} (ha : aligned p verdicts = true)
    (h : exemptRows (rowsOf p verdicts) = .ok out) :
    exemptRows (rowsOf (p.onTable t) (p.verdictsOn t verdicts)) = .ok (p.verdictsOn t out) := by
  rw [rowsOf_onTable ha, ← zipWith_verdictsBeside ha]
  exact exemptRows_on h

theorem refineRows_onTable {out : List (List Verdict)} (ha : aligned p verdicts = true)
    (h : refineRows .empty (rowsOf p verdicts) = .ok out) :
    refineRows .empty (rowsOf (p.onTable t) (p.verdictsOn t verdicts)) =
      .ok (p.verdictsOn t out) := by
  rw [rowsOf_onTable ha, ← zipWith_verdictsBeside ha]
  exact refineRows_on h

end

end MigrationSafety
