import MigrationSafety.Proofs.Sequencing.Verdicts

/-!
# What the second pass makes of one verdict

Two passes write into the verdicts, and the second one reads rules that the first one may have
replaced. What both make of one verdict is said here once: the operation is on a new table, or its
question about NOT NULL is answered, or the verdict is kept.

* `Corrected`: what both passes may do;
* `corrected_of_answer`: they do nothing else;
* `Corrected.keeps`: what they leave alone in any case;
* `Corrected.fixed`: they change a corrected verdict no more.
-/

namespace MigrationSafety

/-- What both passes make of the verdict about an operation, where its migration has created some
tables before and the operations before have proved some columns. -/
inductive Corrected (known : NotNullState) (op : Operation) (created : List Value) (v : Verdict) :
    Verdict → Prop
  /-- The danger that the verdict names does not matter for a new table. -/
  | newTable (hexempt : v.IsExempt op created) :
      Corrected known op created v (v.onNewTable op.table)
  /-- The verdict asks whether a column is proved, and it is. -/
  | afterCheck {table column : Value} {validate : Bool} (hkept : ¬v.IsExempt op created)
      (hop : op = .setNotNull table column validate) (hrule : v.rule = pendingNotNullRule)
      (htable : table.isScalar = true) (hcolumn : column.isScalar = true)
      (hproved : known.isProved table column = true) :
      Corrected known op created v (v.afterCheck table column)
  /-- The verdict asks whether a column is proved, and it is not. -/
  | withoutCheck {table column : Value} {validate : Bool} (hkept : ¬v.IsExempt op created)
      (hop : op = .setNotNull table column validate) (hrule : v.rule = pendingNotNullRule)
      (htable : table.isScalar = true) (hcolumn : column.isScalar = true)
      (hproved : known.isProved table column = false) :
      Corrected known op created v (v.withoutCheck table column)
  /-- The verdict asks nothing. -/
  | kept (hkept : ¬v.IsExempt op created) (hasks : ¬v.IsPending op) : Corrected known op created v v

section
variable {known : NotNullState} {op : Operation} {created : List Value} {v w : Verdict}

theorem not_isPending_of_rule (h : v.rule ≠ pendingNotNullRule) : ¬v.IsPending op :=
  fun hpending => h hpending.2

/-- Both passes make nothing else of a verdict. -/
theorem corrected_of_answer (h : known.answer (exempted v op created) op = .ok w) :
    Corrected known op created v w := by
  by_cases hexempt : v.IsExempt op created
  · have hasks : ¬(v.onNewTable op.table).IsPending op :=
      not_isPending_of_rule (by decide : newTableRule ≠ pendingNotNullRule)
    rw [exempted_of_isExempt hexempt, answer_of_not_isPending hasks] at h
    cases h
    exact .newTable hexempt
  · rw [exempted_of_not_isExempt hexempt] at h
    rcases NotNullState.answer_cases h with
      ⟨rfl, hno⟩ | ⟨table, column, validate, hop, hrule, htable, hcolumn, rfl⟩
    · exact .kept hexempt fun ⟨⟨table, column, validate, hop⟩, hrule⟩ =>
        hno table column validate hop hrule
    · cases hproved : known.isProved table column with
      | true => exact .afterCheck hexempt hop hrule htable hcolumn hproved
      | false => exact .withoutCheck hexempt hop hrule htable hcolumn hproved

/-- Both passes leave remedy, lock and vouching of a verdict alone. -/
theorem Corrected.keeps (h : Corrected known op created v w) :
    w.remedy = v.remedy ∧ w.lock = v.lock ∧ w.assured = v.assured := by
  cases h <;> exact ⟨rfl, rfl, rfl⟩

/-- An open question about NOT NULL does not matter for a new table. So where one is answered, the
table is not new, and the answer is not exempt either, though the rule of a scan can be. -/
theorem not_onNewTable_of_pending (hkept : ¬v.IsExempt op created)
    (hrule : v.rule = pendingNotNullRule) : op.onNewTable created = false := by
  have hexempt : v.rule ∈ exemptRules := by
    rw [hrule]
    decide
  exact Bool.eq_false_iff.mpr fun hnew => hkept ⟨hnew, hexempt⟩

theorem not_isExempt_of_not_onNewTable (h : op.onNewTable created = false) :
    ¬w.IsExempt op created :=
  fun hexempt => Bool.eq_false_iff.mp h hexempt.1

/-- Both passes change a corrected verdict no more. -/
theorem Corrected.fixed (h : Corrected known op created v w) :
    exempted w op created = w ∧ known.answer w op = .ok w := by
  have hsettled : ¬w.IsExempt op created ∧ ¬w.IsPending op := by
    cases h with
    | newTable =>
      exact ⟨fun hexempt => absurd hexempt.2 (by decide : newTableRule ∉ exemptRules),
        not_isPending_of_rule (by decide : newTableRule ≠ pendingNotNullRule)⟩
    | afterCheck hkept _ hrule =>
      exact ⟨not_isExempt_of_not_onNewTable (not_onNewTable_of_pending hkept hrule),
        not_isPending_of_rule (by decide : "set-not-null-after-check" ≠ pendingNotNullRule)⟩
    | withoutCheck hkept _ hrule =>
      exact ⟨not_isExempt_of_not_onNewTable (not_onNewTable_of_pending hkept hrule),
        not_isPending_of_rule (by decide : "set-not-null-scan" ≠ pendingNotNullRule)⟩
    | kept hkept hasks => exact ⟨hkept, hasks⟩
  exact ⟨exempted_of_not_isExempt hsettled.1, answer_of_not_isPending hsettled.2⟩

end

end MigrationSafety
