import MigrationSafety.Proofs.Sequencing.NotNull
import MigrationSafety.Proofs.Sequencing.Typed

/-!
# When a column counts as proved

The pass for NOT NULL follows waiting checks and proved columns through the plan. Which columns
are proved in the end is said here without following anything: by two operations of the plan and
what does not stand between them.

* `ProvedBy`: a validated check, or a check and its validation with no other check of that name
  between them;
* `isProved_iff`: a column counts as proved exactly if the operations have proved it;
* `pending_unique`: no two checks wait under one name;
* `notNull_settled`: the verdict about every change to NOT NULL whose question is open.
-/

namespace MigrationSafety

open Operation (constraintNameOf notNullColumnOf)
open NotNullState (isKey)

/-- Whether an operation leaves a check against null waiting under a table and a name. -/
def Operation.awaits (table name : Value) (op : Operation) : Bool :=
  op.waiting?.any fun e => table.equal e.1.1 && name.equal e.1.2

/-- Whether some operations prove that a column holds no null: one of them adds a check of the
column with validation, or one adds it without and a later one validates it, and none between these
two leaves another check against null waiting under the same name. -/
def ProvedBy (ops : List Operation) (table column : Value) : Prop :=
  ∃ pre t expression name validated post c,
    ops = pre ++ .addCheckConstraint t expression name validated :: post ∧
      table.equal t = true ∧ notNullColumnOf expression = .ok (some c) ∧
      column.equal (.text c) = true ∧
      (validated = true ∨ ∃ mid vTable vName rest,
        post = mid ++ .validateCheckConstraint vTable vName :: rest ∧
          t.equal vTable = true ∧ (constraintNameOf t expression name).equal vName = true ∧
          ∀ op ∈ mid, op.awaits t (constraintNameOf t expression name) = false)

theorem Operation.awaits_of_settles {op : Operation} {entry : (Value × Value) × String}
    (h : op.settles entry = false) : op.awaits entry.1.1 entry.1.2 = false := by
  cases op
  case validateCheckConstraint => rfl
  all_goals exact h

/-- Only a validation settles a check without leaving another one under its name. -/
theorem Operation.eq_validate_of_settles {op : Operation} {entry : (Value × Value) × String}
    (h : op.settles entry = true) (ha : op.awaits entry.1.1 entry.1.2 = false) :
    ∃ table name, op = .validateCheckConstraint table name ∧ isKey table name entry = true := by
  cases op
  case validateCheckConstraint table name => exact ⟨table, name, rfl, h⟩
  all_goals
    have hfalse : true = false := h.symm.trans ha
    cases hfalse

/-- The first item of a list with a property, if there is one. -/
theorem exists_first {α : Type} {P : α → Bool} {l : List α} (h : ∃ a ∈ l, P a = true) :
    ∃ pre a post, l = pre ++ a :: post ∧ P a = true ∧ ∀ b ∈ pre, P b = false := by
  obtain ⟨a, ha⟩ := Option.isSome_iff_exists.mp (List.find?_isSome.mpr h)
  obtain ⟨hPa, pre, post, rfl, hpre⟩ := List.find?_eq_some_iff_append.mp ha
  exact ⟨pre, a, post, rfl, hPa, fun b hb => by simpa using hpre b hb⟩

namespace NotNullState

/-! ## Names of waiting checks -/

theorem isScalar_of_mem_pending {s : NotNullState} {ops : List Operation}
    (h : empty.run ops = .ok s) {entry : (Value × Value) × String} (he : entry ∈ s.pending) :
    entry.1.1.isScalar = true ∧ entry.1.2.isScalar = true := by
  induction ops using List.reverseRecOn generalizing s with
  | nil =>
    rw [← run_nil_eq_ok.mp h] at he
    cases he
  | append_singleton ops op ih =>
    obtain ⟨s', hs', hstep⟩ := run_concat_eq_ok.mp h
    rcases (mem_pending_step hstep).mp he with hop | ⟨he, -⟩
    · obtain ⟨table, expression, name, column, rfl, hcolumn, rfl⟩ := Operation.waiting?_eq_some hop
      cases step_eq_ok hstep with
      | other hother => cases hother
      | silent hsilent =>
        rw [hcolumn] at hsilent
        cases hsilent
      | await _ htable hname => exact ⟨htable, hname⟩
    · exact ih hs' he

/-- A check of the same table and name replaces one that waits. -/
theorem settles_of_waiting? {op : Operation} {e entry : (Value × Value) × String}
    (h : op.waiting? = some e) (hkey : isKey e.1.1 e.1.2 entry = true) :
    op.settles entry = true := by
  obtain ⟨_, _, _, _, rfl, -, -⟩ := Operation.waiting?_eq_some h
  rw [Operation.settles, h]
  · exact hkey
  · exact fun _ _ hop => by cases hop

/-- No two checks wait under one table and name. -/
theorem pending_unique {s : NotNullState} {ops : List Operation} (h : empty.run ops = .ok s)
    {table name : Value} (ht : table.isScalar = true) (hn : name.isScalar = true)
    {e e' : (Value × Value) × String} (he : e ∈ s.pending) (he' : e' ∈ s.pending)
    (hkey : isKey table name e = true) (hkey' : isKey table name e' = true) : e = e' := by
  -- Two entries under one key are each other's key.
  have hcross {x y : (Value × Value) × String} (hx : x ∈ s.pending) (hy : y ∈ s.pending)
      (hxk : isKey table name x = true) (hyk : isKey table name y = true) :
      isKey x.1.1 x.1.2 y = true := by
    obtain ⟨hxt, hxn⟩ := isScalar_of_mem_pending h hx
    obtain ⟨hyt, hyn⟩ := isScalar_of_mem_pending h hy
    simp only [isKey, Bool.and_eq_true] at hxk hyk ⊢
    exact ⟨Value.equal_trans hyt ht hxt hyk.1 (Value.equal_symm hxt ht hxk.1),
      Value.equal_trans hyn hn hxn hyk.2 (Value.equal_symm hxn hn hxk.2)⟩
  have h₁ := hcross he he' hkey hkey'
  have h₂ := hcross he' he hkey' hkey
  clear hcross hkey hkey'
  induction ops using List.reverseRecOn generalizing s with
  | nil =>
    rw [← run_nil_eq_ok.mp h] at he
    cases he
  | append_singleton ops op ih =>
    obtain ⟨s', hs', hstep⟩ := run_concat_eq_ok.mp h
    rcases (mem_pending_step hstep).mp he with hop | ⟨he, hkept⟩ <;>
      rcases (mem_pending_step hstep).mp he' with hop' | ⟨he', hkept'⟩
    · rw [hop, Option.some.injEq] at hop'
      exact hop'
    · rw [settles_of_waiting? hop h₁] at hkept'
      cases hkept'
    · rw [settles_of_waiting? hop' h₂] at hkept
      cases hkept
    · exact ih hs' he he'

/-! ## Proved columns -/

/-- What is proved stays proved. -/
theorem mem_proved_run {s s' : NotNullState} {ops : List Operation} (h : s.run ops = .ok s')
    {x : Value × String} (hx : x ∈ s.proved) : x ∈ s'.proved := by
  induction ops generalizing s with
  | nil => rwa [← run_nil_eq_ok.mp h]
  | cons op ops ih =>
    obtain ⟨t, hstep, hrun⟩ := run_cons_eq_ok.mp h
    exact ih hrun ((mem_proved_step hstep).mpr (.inl hx))

/-- A column that an operation has proved counts as proved. -/
theorem isProved_of_certifies {s : NotNullState} {pre post : List Operation} {op : Operation}
    (h : empty.run (pre ++ op :: post) = .ok s)
    (hs : op.table.isScalar = true)
    {table column : Value} (hop : Certifies pre table column op) :
    s.isProved table column = true := by
  obtain ⟨s₁, hpre, hrest⟩ := run_append_eq_ok.mp h
  obtain ⟨s₂, hstep, hpost⟩ := run_cons_eq_ok.mp hrest
  have hproved {t : Value} {c : String} (hmem : (t, c) ∈ s₂.proved)
      (ht : table.equal t = true) (hc : column.equal (.text c) = true) :
      s.isProved table column = true :=
    List.any_eq_true.mpr ⟨(t, c), mem_proved_run hpost hmem, (Bool.and_eq_true _ _).mpr ⟨ht, hc⟩⟩
  cases hop with
  | @added t expression name c hcolumn ht hc =>
    exact hproved ((mem_proved_step hstep).mpr (.inr (.inl ⟨expression, name, rfl, hcolumn⟩))) ht hc
  | @validated t name entry hwaits hkey ht hc =>
    have hmem := (mem_pending_iff hpre).mpr hwaits
    obtain ⟨e, hfind⟩ := Option.isSome_iff_exists.mp (List.find?_isSome.mpr ⟨entry, hmem, hkey⟩)
    -- A check waits, so the pass has taken the name of the validation for a key.
    have hname : name.isScalar = true := by
      cases step_eq_ok hstep with
      | other hother => cases hother
      | validate hkeys =>
        rcases hkeys with hnil | hkeys
        · rw [hnil] at hmem
          cases hmem
        · exact hkeys.2
    have heq := pending_unique hpre hs hname (List.mem_of_find?_eq_some hfind) hmem
      (List.find?_some hfind) hkey
    rw [heq] at hfind
    exact hproved ((mem_proved_step hstep).mpr (.inr (.inr ⟨name, entry, rfl, hfind, rfl⟩))) ht hc

/-- A column counts as proved after some operations exactly if they have proved it. -/
theorem isProved_iff {s : NotNullState} {ops : List Operation} (h : empty.run ops = .ok s)
    (hs : ∀ op ∈ ops, op.table.isScalar = true) {table column : Value}
    (ht : table.isScalar = true) : s.isProved table column = true ↔ ProvedBy ops table column := by
  constructor
  · intro hp
    obtain ⟨pre, op, post, rfl, hop⟩ := certified_of_isProved h hp
    cases hop with
    | @added t expression name c hcolumn htable hc =>
      exact ⟨pre, t, expression, name, true, post, c, rfl, htable, hcolumn, hc, .inl rfl⟩
    | @validated vTable vName entry hwaits hkey htable hc =>
      obtain ⟨mid, o, rest, rfl, ho, hrest⟩ := hwaits
      obtain ⟨t, expression, name, c, rfl, hcolumn, rfl⟩ := Operation.waiting?_eq_some ho
      obtain ⟨hkeyTable, hkeyName⟩ := (Bool.and_eq_true _ _).mp hkey
      have hst : t.isScalar = true := hs (.addCheckConstraint t expression name false) (by simp)
      have hsv : vTable.isScalar = true := hs (.validateCheckConstraint vTable vName) (by simp)
      have hequal := Value.equal_trans ht hsv hst htable (Value.equal_symm hst hsv hkeyTable)
      exact ⟨mid, t, expression, name, false, _, c, by simp, hequal, hcolumn, hc,
        .inr ⟨rest, vTable, vName, post, rfl, hkeyTable, hkeyName,
          fun x hx => Operation.awaits_of_settles (hrest x hx)⟩⟩
  · rintro ⟨pre, t, expression, name, validated, post, c, rfl, htable, hcolumn, hc, hvalid⟩
    have hst : t.isScalar = true :=
      hs (.addCheckConstraint t expression name validated) (by simp)
    cases validated with
    | true => exact isProved_of_certifies h hst (.added hcolumn htable hc)
    | false =>
      obtain ⟨mid, vTable, vName, rest, rfl, hkeyTable, hkeyName, hmid⟩ := hvalid.resolve_left nofun
      -- The first operation that settles the check validates it, perhaps before the given one.
      have hsettled : ∃ op ∈ mid ++ [.validateCheckConstraint vTable vName],
          op.settles ((t, constraintNameOf t expression name), c) = true :=
        ⟨.validateCheckConstraint vTable vName, by simp,
          (Bool.and_eq_true _ _).mpr ⟨hkeyTable, hkeyName⟩⟩
      obtain ⟨between, op, others, hsplit, hop, hbetween⟩ := exists_first hsettled
      have hmem : op ∈ mid ++ [.validateCheckConstraint vTable vName] := by simp [hsplit]
      have hawaits : op.awaits t (constraintNameOf t expression name) = false := by
        rcases List.mem_append.mp hmem with hmem | hmem
        · exact hmid op hmem
        · rw [List.mem_singleton.mp hmem]
          rfl
      obtain ⟨vTable', vName', rfl, hkey⟩ := Operation.eq_validate_of_settles hop hawaits
      have hops : pre ++ .addCheckConstraint t expression name false ::
          (mid ++ .validateCheckConstraint vTable vName :: rest) =
          (pre ++ .addCheckConstraint t expression name false :: between) ++
            .validateCheckConstraint vTable' vName' :: (others ++ rest) := by
        rw [List.append_cons mid, hsplit]
        simp
      rw [hops] at h hs
      have hsv : vTable'.isScalar = true :=
        hs (.validateCheckConstraint vTable' vName') (by simp)
      have hwaits : Waits ((t, constraintNameOf t expression name), c)
          (pre ++ .addCheckConstraint t expression name false :: between) :=
        ⟨pre, _, between, rfl, by simp [Operation.waiting?, hcolumn], hbetween⟩
      exact isProved_of_certifies h hsv (.validated hwaits hkey
        (Value.equal_trans ht hst hsv htable ((Bool.and_eq_true _ _).mp hkey).1) hc)

end NotNullState

/-! ## Changes to NOT NULL -/

/-- The rule of verdicts about NOT NULL where no validated check comes first. -/
def scanRule : String := "set-not-null-scan"

/-- An open question about NOT NULL is answered, safe exactly where the operations have proved the
column. -/
theorem NotNullState.answer_pending {known : NotNullState} {ops : List Operation}
    (hrun : empty.run ops = .ok known) (hs : ∀ op ∈ ops, op.table.isScalar = true)
    {table column : Value} {validate : Bool} {v w : Verdict} (hv : v.rule = pendingNotNullRule)
    (h : known.answer v (.setNotNull table column validate) = .ok w) :
    ProvedBy ops table column ∧ w = v.afterCheck table column ∨
      ¬ProvedBy ops table column ∧ w = v.withoutCheck table column := by
  rcases answer_cases h with ⟨-, hno⟩ | ⟨t, c, _, hop, -, ht, -, rfl⟩
  · exact absurd hv (hno _ _ _ rfl)
  · cases hop
    have hiff : known.isProved table column = true ↔ ProvedBy ops table column :=
      isProved_iff hrun hs ht
    cases hp : known.isProved table column with
    | true => exact .inl ⟨hiff.mp hp, rfl⟩
    | false => exact .inr ⟨fun hproved => by simp [hiff.mpr hproved] at hp, rfl⟩

/-- The second pass leaves no question about NOT NULL open. Where the pass for new tables has left
one, the verdict is safe exactly if the operations before have proved the column, and a full scan
is expected otherwise. For a typed plan with a verdict for every operation, the second pass has a
result. -/
theorem notNull_settled (p : Plan) (verdicts : List (List Verdict)) :
    (p.isTyped = true → aligned p verdicts = true → ∃ s, (sequence p verdicts).outcome = .ok s) ∧
    ∀ s, (sequence p verdicts).outcome = .ok s →
      ∃ exemptedVerdicts, exemptRows (rowsOf p verdicts) = .ok exemptedVerdicts ∧
        ∀ i j table column validate,
          p.operation? i j = some (.setNotNull table column validate) →
          ∃ v w, cell? exemptedVerdicts i j = some v ∧ cell? s.verdicts i j = some w ∧
            w.rule ≠ pendingNotNullRule ∧
            (v.rule = pendingNotNullRule →
              (w.status = .safe ∧ w.rule = afterCheckRule ↔
                ProvedBy (p.history i j) table column) ∧
              (¬ProvedBy (p.history i j) table column →
                w.status = .unsafeChange ∧ w.rule = scanRule)) := by
  refine ⟨sequence_total, fun s h => ?_⟩
  obtain ⟨ha, exemptedVerdicts, _, _, hexempt, -, -, hrefine, -⟩ := sequence_eq_ok.mp h
  have hshape := aligned_of_exemptRows ha hexempt
  refine ⟨exemptedVerdicts, hexempt, fun i j table column validate ho => ?_⟩
  obtain ⟨v, hv⟩ := exists_cell_of_shape (aligned_iff.mp hshape) ho
  obtain ⟨known, w, hrun, hanswer, hw⟩ := answer_of_refineRows hshape hrefine ho hv
  have hs : ∀ op ∈ p.history i j, op.table.isScalar = true := by
    intro op hop
    obtain ⟨ops, hops, hop⟩ := mem_of_mem_historyIn hop
    exact isScalar_table_of_sequence h hops hop
  refine ⟨v, w, hv, hw, ?_, fun hpending => ?_⟩
  · by_cases hpending : v.rule = pendingNotNullRule
    · rcases NotNullState.answer_pending hrun hs hpending hanswer with ⟨-, rfl⟩ | ⟨-, rfl⟩
      · exact (by decide : afterCheckRule ≠ pendingNotNullRule)
      · exact (by decide : scanRule ≠ pendingNotNullRule)
    · rcases NotNullState.answer_cases hanswer with ⟨rfl, -⟩ | ⟨_, _, _, -, hp, -⟩
      · exact hpending
      · exact absurd hp hpending
  · rcases NotNullState.answer_pending hrun hs hpending hanswer with ⟨hp, rfl⟩ | ⟨hp, rfl⟩
    · exact ⟨⟨fun _ => hp, fun _ => ⟨rfl, rfl⟩⟩, fun hno => absurd hp hno⟩
    · exact ⟨⟨fun hsafe => Status.noConfusion hsafe.1, fun hyes => absurd hyes hp⟩,
        fun _ => ⟨rfl, rfl⟩⟩

/-- A plan with two checks of one name, of which the validation is about the second one. -/
def reusedName : Plan :=
  ⟨[⟨.text "contacts",
      [.addCheckConstraint (.text "users") (.text "email IS NOT NULL") (.text "present") false,
        .addCheckConstraint (.text "users") (.text "phone IS NOT NULL") (.text "present") false,
        .validateCheckConstraint (.text "users") (.text "present")], false, false, false⟩,
    ⟨.text "constrain",
      [.setNotNull (.text "users") (.text "email") true,
        .setNotNull (.text "users") (.text "phone") true], false, false, false⟩]⟩

/-- Verdicts about this plan, the last two with their questions open. -/
def reusedNameVerdicts : List (List Verdict) :=
  let unvalidated : Verdict :=
    ⟨.conditionallySafe, "", .validateSeparately, none, "add-check-constraint-not-valid", false⟩
  let validated : Verdict := ⟨.safe, "", .nothing, none, "validate-check-constraint", false⟩
  let pending : Verdict :=
    ⟨.conditionallySafe, "", .validateSeparately, none, pendingNotNullRule, false⟩
  [[unvalidated, unvalidated, validated], [pending, pending]]

theorem notNull_settled_reusedName :
    ∃ s, (sequence reusedName reusedNameVerdicts).outcome = .ok s ∧
      ¬ProvedBy (reusedName.history 1 0) (.text "users") (.text "email") ∧
      ProvedBy (reusedName.history 1 1) (.text "users") (.text "phone") := by
  obtain ⟨htotal, hsettled⟩ := notNull_settled reusedName reusedNameVerdicts
  obtain ⟨s, hs⟩ := htotal (by decide) rfl
  obtain ⟨es, hes, hplace⟩ := hsettled s hs
  obtain ⟨email, emailAfter, hemail, hemailAfter, -, hfirst⟩ := hplace 1 0 _ _ _ rfl
  obtain ⟨phone, phoneAfter, hphone, hphoneAfter, -, hsecond⟩ := hplace 1 1 _ _ _ rfl
  cases hes
  cases hs
  cases hemail
  cases hphone
  cases hemailAfter
  cases hphoneAfter
  exact ⟨_, rfl, fun hp => Status.noConfusion ((hfirst rfl).1.mpr hp).1,
    (hsecond rfl).1.mp ⟨rfl, rfl⟩⟩

end MigrationSafety
