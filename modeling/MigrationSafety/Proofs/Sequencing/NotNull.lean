import Mathlib.Data.List.Induction
import MigrationSafety.Proofs.Sequencing.Verdicts

/-!
# What certifies NOT NULL

The pass for NOT NULL knows of a column what the operations on checks before have said about it.
What it knows is read off those operations here: a check waits for its validation from the
operation that adds it until one settles it, and a column is proved by an operation that adds a
validated check or validates a waiting one. Operations that are not about checks do not count, even
if they remove the column, rename it or put another table in its place.

* `NotNullState.Step`: what one operation may change;
* `mem_pending_iff`, `certified_of_isProved`: what is known after some operations;
* `certified_of_afterCheck`: what stands before a change to NOT NULL that is declared safe.
-/

namespace MigrationSafety

open Operation (constraintNameOf notNullColumnOf)
open NotNullState (isKey)

namespace Operation

/-- Whether an operation is about a check. -/
def isCheck : Operation → Bool
  | addCheckConstraint _ _ _ _ | validateCheckConstraint _ _ => true
  | _ => false

/-- The table, name and column of a check that an operation leaves waiting for its validation. -/
def waiting? : Operation → Option ((Value × Value) × String)
  | addCheckConstraint table expression name false =>
    match notNullColumnOf expression with
    | .ok (some column) => some ((table, constraintNameOf table expression name), column)
    | _ => none
  | _ => none

/-- Whether a waiting check waits no more after an operation, because the operation validates it or
adds another one of the same table and name. -/
def settles (entry : (Value × Value) × String) : Operation → Bool
  | validateCheckConstraint table name => isKey table name entry
  | op => op.waiting?.any fun e => isKey e.1.1 e.1.2 entry

theorem waiting?_eq_some {op : Operation} {entry : (Value × Value) × String}
    (h : op.waiting? = some entry) : ∃ table expression name column,
      op = .addCheckConstraint table expression name false ∧
        notNullColumnOf expression = .ok (some column) ∧
        entry = ((table, constraintNameOf table expression name), column) := by
  unfold waiting? at h
  split at h
  · split at h
    · rename_i hcolumn
      cases h
      exact ⟨_, _, _, _, rfl, hcolumn, rfl⟩
    · cases h
  · cases h

theorem waiting?_of_isCheck {op : Operation} (h : op.isCheck = false) : op.waiting? = none := by
  cases op <;> first | rfl | cases h

theorem settles_of_isCheck {op : Operation} (h : op.isCheck = false)
    (entry : (Value × Value) × String) : op.settles entry = false := by
  cases op <;> first | rfl | cases h

end Operation

namespace NotNullState

/-- How an operation changes what is known. -/
inductive Step (s : NotNullState) : Operation → NotNullState → Prop where
  | other {op : Operation} : op.isCheck = false → Step s op s
  | silent {table expression name : Value} {validated : Bool} :
    notNullColumnOf expression = .ok none →
      Step s (.addCheckConstraint table expression name validated) s
  | prove {table expression name : Value} {column : String} :
    notNullColumnOf expression = .ok (some column) → table.isScalar = true →
      Step s (.addCheckConstraint table expression name true) (s.prove table column)
  | await {table expression name : Value} {column : String} :
    notNullColumnOf expression = .ok (some column) → table.isScalar = true →
      (constraintNameOf table expression name).isScalar = true →
      Step s (.addCheckConstraint table expression name false)
        (s.await table (constraintNameOf table expression name) column)
  | validate {table name : Value} :
    s.pending = [] ∨ table.isScalar = true ∧ name.isScalar = true →
      Step s (.validateCheckConstraint table name) (s.validate table name)

theorem step_eq_ok {s s' : NotNullState} {op : Operation} (h : s.step op = .ok s') :
    Step s op s' := by
  cases op
  case addCheckConstraint table expression name validated =>
    simp only [step, bind_eq_ok] at h
    obtain ⟨column, hcolumn, h⟩ := h
    cases column with
    | none =>
      cases h
      exact .silent hcolumn
    | some column =>
      simp only [bind_eq_ok, Value.asKey_eq_ok] at h
      obtain ⟨_, ⟨ht, rfl⟩, h⟩ := h
      cases validated with
      | true =>
        cases h
        exact .prove hcolumn ht
      | false =>
        simp only [Bool.false_eq_true, if_false, bind_eq_ok, Value.asKey_eq_ok] at h
        obtain ⟨_, ⟨hn, rfl⟩, h⟩ := h
        cases h
        exact .await hcolumn ht hn
  case validateCheckConstraint table name =>
    rw [step] at h
    split at h
    · rename_i hempty
      have hnil : s.pending = [] := List.isEmpty_iff.mp hempty
      have hstep : Step s (.validateCheckConstraint table name) (s.validate table name) :=
        .validate (.inl hnil)
      have hsame : s.validate table name = s := by
        rw [NotNullState.validate, hnil]
        rfl
      rw [hsame] at hstep
      cases h
      exact hstep
    · simp only [bind_eq_ok, Value.asKey_eq_ok] at h
      obtain ⟨_, ⟨ht, rfl⟩, _, ⟨hn, rfl⟩, h⟩ := h
      cases h
      exact .validate (.inr ⟨ht, hn⟩)
  all_goals
    cases h
    exact .other rfl

/-- Every such change is what the operation does. -/
theorem Step.eq_ok {s s' : NotNullState} {op : Operation} (h : Step s op s') :
    s.step op = .ok s' := by
  cases h with
  | other hcheck => cases op <;> first | rfl | cases hcheck
  | silent hcolumn => rw [step, hcolumn]; rfl
  | prove hcolumn htable => rw [step, hcolumn]; simp [bind_eq_ok, Value.asKey_of_isScalar htable]
  | await hcolumn htable hname =>
    rw [step, hcolumn]
    simp [bind_eq_ok, Value.asKey_of_isScalar htable, Value.asKey_of_isScalar hname]
  | @validate table name hkey =>
    rw [step]
    split
    · rename_i hempty
      rw [NotNullState.validate, List.isEmpty_iff.mp hempty]
      rfl
    · rename_i hempty
      obtain ⟨htable, hname⟩ := hkey.resolve_left fun hnil => hempty (List.isEmpty_iff.mpr hnil)
      simp [bind_eq_ok, Value.asKey_of_isScalar htable, Value.asKey_of_isScalar hname]

/-- The checks that wait after an operation: the one that it adds, and those that it does not
settle. -/
theorem mem_pending_step {s s' : NotNullState} {op : Operation} (h : s.step op = .ok s')
    {entry : (Value × Value) × String} :
    entry ∈ s'.pending ↔
      op.waiting? = some entry ∨ entry ∈ s.pending ∧ op.settles entry = false := by
  cases step_eq_ok h with
  | other hop =>
    simp [Operation.waiting?_of_isCheck hop, Operation.settles_of_isCheck hop]
  | @silent _ _ _ validated hcolumn =>
    cases validated <;> simp [Operation.settles, Operation.waiting?, hcolumn]
  | prove => simp [Operation.settles, Operation.waiting?, NotNullState.prove]
  | await hcolumn =>
    rw [NotNullState.await, eq_comm (b := some entry)]
    simp [Operation.settles, Operation.waiting?, hcolumn]
  | @validate table name =>
    rw [NotNullState.validate]
    split
    · rename_i hnone
      have hkept : ∀ e ∈ s.pending, isKey table name e = false := by simpa using hnone
      simp only [Operation.settles, Operation.waiting?, reduceCtorEq, false_or]
      exact ⟨fun he => ⟨he, hkept _ he⟩, And.left⟩
    · simp [Operation.settles, Operation.waiting?]

/-- The columns that are proved after an operation: those before, that of a validated check which
it adds, and that of a waiting check which it validates. -/
theorem mem_proved_step {s s' : NotNullState} {op : Operation} (h : s.step op = .ok s')
    {table : Value} {column : String} :
    (table, column) ∈ s'.proved ↔
      (table, column) ∈ s.proved ∨
        (∃ expression name, op = .addCheckConstraint table expression name true ∧
          notNullColumnOf expression = .ok (some column)) ∨
        ∃ name entry, op = .validateCheckConstraint table name ∧
          s.pending.find? (isKey table name) = some entry ∧ entry.2 = column := by
  cases step_eq_ok h with
  | other hop =>
    refine ⟨.inl, ?_⟩
    rintro (h | ⟨_, _, rfl, -⟩ | ⟨_, _, rfl, -⟩)
    · exact h
    · cases hop
    · cases hop
  | silent hcolumn => simp [hcolumn]
  | prove hcolumn =>
    simp only [NotNullState.prove, List.mem_cons, Prod.mk.injEq]
    constructor
    · rintro (⟨rfl, rfl⟩ | h)
      · exact .inr (.inl ⟨_, _, rfl, hcolumn⟩)
      · exact .inl h
    · rintro (h | ⟨_, _, hop, hcolumn'⟩ | ⟨_, _, hop, -⟩)
      · exact .inr h
      · cases hop
        rw [hcolumn, Except.ok.injEq, Option.some.injEq] at hcolumn'
        exact .inl ⟨rfl, hcolumn'.symm⟩
      · cases hop
  | await => simp [NotNullState.await]
  | @validate table' name =>
    rw [NotNullState.validate]
    split
    · rename_i hnone
      refine ⟨.inl, ?_⟩
      rintro (h | ⟨_, _, hop, -⟩ | ⟨_, _, hop, hsome, -⟩)
      · exact h
      · cases hop
      · cases hop
        rw [hnone] at hsome
        cases hsome
    · rename_i key column' hsome
      simp only [List.mem_cons, Prod.mk.injEq]
      constructor
      · rintro (⟨rfl, rfl⟩ | h)
        · exact .inr (.inr ⟨_, _, rfl, hsome, rfl⟩)
        · exact .inl h
      · rintro (h | ⟨_, _, hop, -⟩ | ⟨_, _, hop, hsome', rfl⟩)
        · exact .inr h
        · cases hop
        · cases hop
          rw [hsome, Option.some.injEq] at hsome'
          exact .inl ⟨rfl, by rw [← hsome']⟩

end NotNullState

/-! ## Runs -/

/-- Whether a check waits for its validation after some operations: one of them has added it, and
none has settled it since. -/
def Waits (entry : (Value × Value) × String) (ops : List Operation) : Prop :=
  ∃ pre op post, ops = pre ++ op :: post ∧ op.waiting? = some entry ∧
    ∀ o ∈ post, o.settles entry = false

/-- Whether an operation proves that a column holds no null, where `pre` are the operations before
it: it adds a validated check of the column, or validates one that waits. -/
inductive Certifies (pre : List Operation) (table column : Value) : Operation → Prop where
  | added {t expression name : Value} {c : String} :
    notNullColumnOf expression = .ok (some c) → table.equal t = true →
      column.equal (.text c) = true →
      Certifies pre table column (.addCheckConstraint t expression name true)
  | validated {t name : Value} {entry : (Value × Value) × String} :
    Waits entry pre → isKey t name entry = true → table.equal t = true →
      column.equal (.text entry.2) = true →
      Certifies pre table column (.validateCheckConstraint t name)

theorem waits_concat {entry : (Value × Value) × String} {ops : List Operation} {op : Operation} :
    Waits entry (ops ++ [op]) ↔
      op.waiting? = some entry ∨ Waits entry ops ∧ op.settles entry = false := by
  constructor
  · rintro ⟨pre, o, post, hsplit, ho, hpost⟩
    rcases List.eq_nil_or_concat' post with rfl | ⟨post, x, rfl⟩
    · obtain ⟨rfl, heq⟩ := List.append_inj' hsplit rfl
      cases heq
      exact .inl ho
    · rw [← List.cons_append, ← List.append_assoc] at hsplit
      obtain ⟨rfl, heq⟩ := List.append_inj' hsplit rfl
      cases heq
      exact .inr ⟨⟨pre, o, post, rfl, ho, fun y hy => hpost y (List.mem_append_left _ hy)⟩,
        hpost _ (List.mem_append_right _ List.mem_cons_self)⟩
  · rintro (h | ⟨⟨pre, o, post, rfl, ho, hpost⟩, hop⟩)
    · exact ⟨ops, op, [], rfl, h, by simp⟩
    · refine ⟨pre, o, post ++ [op], by simp, ho, fun y hy => ?_⟩
      rcases List.mem_append.mp hy with hy | hy
      · exact hpost y hy
      · rw [List.mem_singleton.mp hy]
        exact hop

namespace NotNullState

theorem run_concat_eq_ok {s t : NotNullState} {ops : List Operation} {op : Operation} :
    s.run (ops ++ [op]) = .ok t ↔ ∃ s', s.run ops = .ok s' ∧ s'.step op = .ok t := by
  simp [run_append_eq_ok, run_cons_eq_ok, run_nil_eq_ok]

/-- The waiting checks of the pass are those that wait. -/
theorem mem_pending_iff {s : NotNullState} {ops : List Operation} (h : empty.run ops = .ok s)
    {entry : (Value × Value) × String} : entry ∈ s.pending ↔ Waits entry ops := by
  induction ops using List.reverseRecOn generalizing s with
  | nil =>
    rw [← run_nil_eq_ok.mp h]
    simp [empty, Waits]
  | append_singleton ops op ih =>
    obtain ⟨s', hs', hstep⟩ := run_concat_eq_ok.mp h
    rw [mem_pending_step hstep, ih hs', waits_concat]

/-- A column that counts as proved has been proved by an operation. -/
theorem certified_of_isProved {s : NotNullState} {ops : List Operation}
    (h : empty.run ops = .ok s) {table column : Value} (hp : s.isProved table column = true) :
    ∃ pre op post, ops = pre ++ op :: post ∧ Certifies pre table column op := by
  obtain ⟨⟨t, c⟩, hmem, heq⟩ := List.any_eq_true.mp hp
  obtain ⟨ht, hc⟩ := (Bool.and_eq_true _ _).mp heq
  clear hp heq
  induction ops using List.reverseRecOn generalizing s with
  | nil =>
    rw [← run_nil_eq_ok.mp h] at hmem
    cases hmem
  | append_singleton ops op ih =>
    obtain ⟨s', hs', hstep⟩ := run_concat_eq_ok.mp h
    rcases (mem_proved_step hstep).mp hmem with hmem | ⟨e, n, rfl, he⟩ | ⟨n, entry, rfl, hfind, rfl⟩
    · obtain ⟨pre, o, post, rfl, ho⟩ := ih hs' hmem
      exact ⟨pre, o, post ++ [op], by simp, ho⟩
    · exact ⟨ops, _, [], rfl, .added he ht hc⟩
    · have hwaits := (mem_pending_iff hs').mp (List.mem_of_find?_eq_some hfind)
      exact ⟨ops, _, [], rfl, .validated hwaits (List.find?_some hfind) ht hc⟩

end NotNullState

/-! ## Changes to NOT NULL -/

/-- The rule of verdicts about NOT NULL where a validated check comes first. -/
def afterCheckRule : String := "set-not-null-after-check"

/-- A question about NOT NULL is left only where the migration has not created the table. -/
theorem among_of_pending {v : Verdict} {table column : Value} {validate : Bool}
    {created : List Value}
    (h : (exempted v (.setNotNull table column validate) created).rule = pendingNotNullRule) :
    table.among created = false := by
  rw [exempted_eq] at h
  split at h
  · exact absurd h (by decide : newTableRule ≠ pendingNotNullRule)
  · rename_i hkept
    have hexempt : exemptRules.contains v.rule = true := by
      rw [h]
      decide
    rw [hexempt, Bool.and_true] at hkept
    exact Bool.eq_false_iff.mpr hkept

/-- Where the second pass declares a change to NOT NULL safe because of a check, an operation
before it in the plan has proved the column by that check, and no operation before it in its own
migration creates the table. -/
theorem certified_of_afterCheck {p : Plan} {verdicts : List (List Verdict)} {s : Sequenced}
    {i j : Nat} {table column : Value} {validate : Bool} {v w : Verdict}
    (h : (sequence p verdicts).outcome = .ok s)
    (ho : p.operation? i j = some (.setNotNull table column validate))
    (hv : cell? verdicts i j = some v) (hw : cell? s.verdicts i j = some w)
    (hafter : w.rule = afterCheckRule) (hold : v.rule ≠ afterCheckRule) :
    w.status = .safe ∧
      (∃ pre op post, p.history i j = pre ++ op :: post ∧ Certifies pre table column op) ∧
      ∀ op ∈ p.earlier i j, op.creates table = false := by
  obtain ⟨known, hrun, hanswer⟩ := answer_of_sequence h ho hv hw
  rcases NotNullState.answer_cases hanswer with ⟨rfl, -⟩ | ⟨t, c, _, hop, hrule, -, -, rfl⟩
  · rw [exempted_eq] at hafter
    split at hafter
    · exact absurd hafter (by decide : newTableRule ≠ afterCheckRule)
    · exact absurd hafter hold
  · cases hop
    split at hafter
    · rename_i hproved
      rw [if_pos hproved]
      refine ⟨rfl, NotNullState.certified_of_isProved hrun hproved, fun op hop => ?_⟩
      have hnone := among_of_pending hrule
      rw [among_createdTables, List.any_eq_false] at hnone
      exact Bool.eq_false_iff.mpr (hnone op hop)
    · exact absurd hafter (by decide : "set-not-null-scan" ≠ afterCheckRule)

/-- Whether an operation takes away a column or its table, or puts another table in its place. -/
def Operation.drops (table column : Value) : Operation → Bool
  | removeColumn t columns => table.equal t && column.among columns
  | renameColumn t c _ => table.equal t && column.equal c
  | renameTable t _ | createTable t _ => table.equal t
  | _ => false

/-- A plan that checks a column and does something else, and then forbids null in the column. -/
def checkThen (op : Operation) : Plan :=
  ⟨[⟨.text "check",
      [.addCheckConstraint (.text "users") (.text "email IS NOT NULL") .null true, op],
      false, false, false⟩,
    ⟨.text "constrain", [.setNotNull (.text "users") (.text "email") true],
      false, false, false⟩]⟩

/-- Verdicts about such a plan, the last one with its question open. -/
def checkThenVerdicts : List (List Verdict) :=
  [[⟨.unsafeChange, "", .validateSeparately, none, "add-check-constraint", false⟩,
      ⟨.conditionallySafe, "", .applicationCodeFirst, none, "", false⟩],
    [⟨.conditionallySafe, "", .validateSeparately, none, pendingNotNullRule, false⟩]]

theorem certified_checkThen_removeColumn :
    ∃ s w, (sequence (checkThen (.removeColumn (.text "users") [.text "name"]))
        checkThenVerdicts).outcome = .ok s ∧ cell? s.verdicts 1 0 = some w ∧ w.status = .safe ∧
      (∃ pre op post, (checkThen (.removeColumn (.text "users") [.text "name"])).history 1 0 =
        pre ++ op :: post ∧ Certifies pre (.text "users") (.text "email") op) ∧
      ∀ op ∈ (checkThen (.removeColumn (.text "users") [.text "name"])).earlier 1 0,
        op.creates (.text "users") = false := by
  obtain ⟨s, w, hs, hw, hrule⟩ : ∃ s w,
      (sequence (checkThen (.removeColumn (.text "users") [.text "name"]))
        checkThenVerdicts).outcome = .ok s ∧
        cell? s.verdicts 1 0 = some w ∧ w.rule = afterCheckRule := ⟨_, _, rfl, rfl, rfl⟩
  exact ⟨s, w, hs, hw, certified_of_afterCheck hs (i := 1) (j := 0) rfl rfl hw hrule (by decide)⟩

/-- Whether the change to NOT NULL is declared safe, although an operation after the check has
dropped the column. -/
def StaleCertificate (op : Operation) : Prop :=
  ∃ s v w, (sequence (checkThen op) checkThenVerdicts).outcome = .ok s ∧
    cell? checkThenVerdicts 1 0 = some v ∧ v.rule ≠ afterCheckRule ∧
    cell? s.verdicts 1 0 = some w ∧ w.rule = afterCheckRule ∧ w.status = .safe ∧
    ∀ pre o post, (checkThen op).history 1 0 = pre ++ o :: post →
      Certifies pre (.text "users") (.text "email") o →
      ∃ x ∈ post, x.drops (.text "users") (.text "email") = true

theorem staleCertificate_of_drops {op : Operation}
    (h : op.drops (.text "users") (.text "email") = true) : StaleCertificate op := by
  have hcheck : op.isCheck = false := by
    cases op <;> first | rfl | cases h
  have htable : op.table = .text "users" := by
    cases op <;> simp only [Operation.drops, Bool.and_eq_true, Value.equal_text_left,
      Bool.false_eq_true] at h <;> first | exact h | exact h.1
  obtain ⟨s, w, hs, hw, hrule, hstatus⟩ : ∃ s w,
      (sequence (checkThen op) checkThenVerdicts).outcome = .ok s ∧
        cell? s.verdicts 1 0 = some w ∧ w.rule = afterCheckRule ∧ w.status = .safe := by
    cases op <;> first
      | cases h
      | cases htable; exact ⟨_, _, rfl, rfl, rfl, rfl⟩
  refine ⟨s, _, w, hs, rfl, by decide, hw, hrule, hstatus, fun pre o post hsplit ho => ?_⟩
  -- Two operations stand before the change to NOT NULL, and the second one certifies nothing.
  have hhistory : (checkThen op).history 1 0 =
      [.addCheckConstraint (.text "users") (.text "email IS NOT NULL") .null true, op] := rfl
  rw [hhistory] at hsplit
  match pre with
  | [] =>
    cases hsplit
    exact ⟨op, List.mem_cons_self, h⟩
  | [_] =>
    cases hsplit
    cases ho <;> cases hcheck
  | _ :: _ :: pre =>
    have := congrArg List.length hsplit
    simp at this

/-- A check certifies NOT NULL even after its column or table is gone. -/
theorem staleCertificate_of_each_drop :
    StaleCertificate (.removeColumn (.text "users") [.text "email"]) ∧
      StaleCertificate (.renameColumn (.text "users") (.text "email") (.text "address")) ∧
      StaleCertificate (.renameTable (.text "users") (.text "people")) ∧
      StaleCertificate (.createTable (.text "users") true) :=
  ⟨staleCertificate_of_drops rfl, staleCertificate_of_drops rfl, staleCertificate_of_drops rfl,
    staleCertificate_of_drops rfl⟩

end MigrationSafety
