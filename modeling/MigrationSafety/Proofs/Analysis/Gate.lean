import MigrationSafety.Proofs.Analysis.Report
import MigrationSafety.Proofs.Sequencing.NotNull

/-!
# What a report that does not block lets through

A plan whose report does not block may be deployed. What that means for the operations of its
reported migrations whose authors do not vouch for them, where the version of the engine is known
and the thresholds are the built-in ones: no table is dropped in order to create it, and on tables
that the migration has not created, no constraint is added validated, NOT NULL is set only where an
earlier check has proved it, and defaults are added only where the engine does not rewrite the
table.

* `Plan.Cleared`: what is let through;
* `cleared_of_not_blocking`: nothing else is.
-/

namespace MigrationSafety

open Operation (constraintNameOf notNullColumnOf)

namespace Plan

/-- Whether a table is created before a place in its migration. -/
def Fresh (p : Plan) (i j : Nat) (table : Value) : Prop :=
  ∃ op ∈ p.earlier i j, op.creates table = true

/-- Whether a check that a column holds no null stands before a place in the plan, added with
validation or validated before that place. -/
def CheckedBefore (p : Plan) (i j : Nat) (table column : Value) : Prop :=
  ∃ pre t expression name validated post c,
    p.history i j = pre ++ .addCheckConstraint t expression name validated :: post ∧
      table.equal t = true ∧ notNullColumnOf expression = .ok (some c) ∧
      column.equal (.text c) = true ∧
      (validated = true ∨ ∃ vTable vName, .validateCheckConstraint vTable vName ∈ post ∧
        t.equal vTable = true ∧ (constraintNameOf t expression name).equal vName = true)

/-- What a report that does not block says about an operation at a place. -/
def Cleared (p : Plan) (kind : EngineKind) (version : Version) (i j : Nat) : Operation → Prop
  | .createTable _ force => force = false
  | .addForeignKey table _ _ _ validate | .addCheckConstraint table _ _ validate =>
    validate = false ∨ p.Fresh i j table
  | .setNotNull table column validate =>
    validate = false ∨ p.Fresh i j table ∨
      (kind = .postgres ∧ version.atLeast ⟨[12], List.cons_ne_nil 12 []⟩ = true ∧
        p.CheckedBefore i j table column)
  | .addColumnWithDefault table _ _ default volatileDefault =>
    p.Fresh i j table ∨
      (Operation.hasVolatileDefault default volatileDefault = .ok false ∧
        ∃ threshold, Thresholds.builtIn.find? fastColumnDefault kind = some threshold ∧
          version.atLeast threshold = true)
  | _ => True

end Plan

/-! ## Unsafe verdicts of the rules -/

theorem fresh_of_isExempt {p : Plan} {i j : Nat} {op : Operation} {v : Verdict}
    (h : v.IsExempt op (createdTables (p.earlier i j))) :
    op.createdTable? = none ∧ p.Fresh i j op.table := by
  have hnew := h.1
  rwa [Operation.onNewTable, Bool.and_eq_true, Option.isNone_iff_eq_none, among_createdTables,
    List.any_eq_true] at hnew

/-- An unsafe verdict of the rules stays unsafe in the second pass, unless it is about a table that
the migration has created before. -/
theorem creates_of_unsafe {p : Plan} {i j : Nat} {op : Operation} {known : NotNullState}
    {v w : Verdict} (h : known.answer (exempted v op (createdTables (p.earlier i j))) op = .ok w)
    (hw : w.status ≠ .unsafeChange) (hv : v.status = .unsafeChange)
    (hrule : v.rule ≠ pendingNotNullRule) :
    op.createdTable? = none ∧ p.Fresh i j op.table := by
  cases corrected_of_answer h with
  | newTable hexempt => exact fresh_of_isExempt hexempt
  | afterCheck _ _ hpending => exact absurd hpending hrule
  | withoutCheck _ _ hpending => exact absurd hpending hrule
  | kept => exact absurd hv hw

/-- A check that certifies NOT NULL before a place stands before it, with its validation. -/
theorem checkedBefore_of_certified {p : Plan} {i j : Nat} {table column : Value}
    (hs : ∀ op ∈ p.history i j, op.table.isScalar = true) (ht : table.isScalar = true)
    {pre post : List Operation} {op : Operation} (hsplit : p.history i j = pre ++ op :: post)
    (h : Certifies pre table column op) : p.CheckedBefore i j table column := by
  cases h with
  | @added t expression name c hcolumn htable hc =>
    exact ⟨pre, t, expression, name, true, post, c, hsplit, htable, hcolumn, hc, .inl rfl⟩
  | @validated vTable vName entry hwaits hkey htable hc =>
    obtain ⟨mid, o, rest, rfl, ho, -⟩ := hwaits
    obtain ⟨t, expression, name, c, rfl, hcolumn, rfl⟩ := Operation.waiting?_eq_some ho
    obtain ⟨hkeyTable, hkeyName⟩ := (Bool.and_eq_true _ _).mp hkey
    -- The check and its validation are on one table, and so is the change to NOT NULL.
    have hst : t.isScalar = true :=
      hs (.addCheckConstraint t expression name false) (by rw [hsplit]; simp)
    have hsv : vTable.isScalar = true :=
      hs (.validateCheckConstraint vTable vName) (by rw [hsplit]; simp)
    have hequal := Value.equal_trans ht hsv hst htable (Value.equal_symm hst hsv hkeyTable)
    rw [List.append_assoc, List.cons_append] at hsplit
    exact ⟨mid, t, expression, name, false, _, c, hsplit, hequal, hcolumn, hc,
      .inr ⟨vTable, vName, by simp, hkeyTable, hkeyName⟩⟩

section

variable {p : Plan} {i j : Nat} {ctx : Context} {op : Operation} {known : NotNullState}
  {v w : Verdict}

theorem fresh_of_decision {rule : String}
    (hdecision : Rule.decision ctx op = .ok (some (v.status, v.rule)))
    (hrefused : Rule.decision ctx op = .ok (some (.unsafeChange, rule)))
    (hrule : rule ≠ pendingNotNullRule)
    (h : known.answer (exempted v op (createdTables (p.earlier i j))) op = .ok w)
    (hw : w.status ≠ .unsafeChange) : op.createdTable? = none ∧ p.Fresh i j op.table := by
  rw [hrefused] at hdecision
  cases v
  cases hdecision
  exact creates_of_unsafe h hw rfl hrule

/-- A change to NOT NULL whose verdict is not unsafe, where the rules ask for a check, is on a new
table or comes after such a check. -/
theorem checked_of_pending {table column : Value} {validate : Bool}
    (hrule : v.rule = pendingNotNullRule)
    (hs : ∀ op ∈ p.history i j, op.table.isScalar = true)
    (hrun : NotNullState.empty.run (p.history i j) = .ok known)
    (h : known.answer (exempted v (.setNotNull table column validate)
      (createdTables (p.earlier i j))) (.setNotNull table column validate) = .ok w)
    (hw : w.status ≠ .unsafeChange) : p.Fresh i j table ∨ p.CheckedBefore i j table column := by
  cases corrected_of_answer h with
  | newTable hexempt => exact .inl (fresh_of_isExempt hexempt).2
  | afterCheck _ hop _ htable _ hproved =>
    cases hop
    obtain ⟨pre, o, post, hsplit, ho⟩ := NotNullState.certified_of_isProved hrun hproved
    exact .inr (checkedBefore_of_certified hs htable hsplit ho)
  | withoutCheck => exact absurd rfl hw
  | kept _ hasks => exact absurd ⟨⟨_, _, _, rfl⟩, hrule⟩ hasks

theorem cleared_setNotNull {table column : Value} {validate : Bool} {version : Version}
    (hthresholds : ctx.thresholds = Thresholds.builtIn)
    (hversion : ctx.engine.version = some version)
    (hdecision : Rule.decision ctx (.setNotNull table column validate) =
      .ok (some (v.status, v.rule)))
    (hs : ∀ op ∈ p.history i j, op.table.isScalar = true)
    (hrun : NotNullState.empty.run (p.history i j) = .ok known)
    (h : known.answer (exempted v (.setNotNull table column validate)
      (createdTables (p.earlier i j))) (.setNotNull table column validate) = .ok w)
    (hw : w.status ≠ .unsafeChange) :
    p.Cleared ctx.engine.kind version i j (.setNotNull table column validate) := by
  cases validate with
  | false => exact .inl rfl
  | true =>
    refine .inr ?_
    have hrules := decision_setNotNull ctx table column true
    cases hpostgres : ctx.engine.isPostgres with
    | false =>
      rw [hpostgres] at hrules
      exact .inl (fresh_of_decision hdecision hrules (by decide) h hw).2
    | true =>
      rw [hpostgres, supportsFeature_notNullFromCheck hthresholds hpostgres hversion] at hrules
      by_cases hreached : version.atLeast ⟨[12], List.cons_ne_nil 12 []⟩ = true
      case neg =>
        rw [Bool.not_eq_true] at hreached
        rw [hreached] at hrules
        exact .inl (fresh_of_decision hdecision hrules (by decide) h hw).2
      case pos =>
        rw [hreached, hdecision] at hrules
        have hrule : v.rule = pendingNotNullRule := by
          cases v
          cases hrules
          rfl
        rcases checked_of_pending hrule hs hrun h hw with hfresh | hchecked
        · exact .inl hfresh
        · exact .inr ⟨beq_iff_eq.mp hpostgres, hreached, hchecked⟩

theorem cleared_addColumnWithDefault {table column columnType default : Value}
    {volatileDefault : Bool} {version : Version}
    (hthresholds : ctx.thresholds = Thresholds.builtIn)
    (hversion : ctx.engine.version = some version)
    (hdecision : Rule.decision ctx
      (.addColumnWithDefault table column columnType default volatileDefault) =
        .ok (some (v.status, v.rule)))
    (h : known.answer (exempted v
      (.addColumnWithDefault table column columnType default volatileDefault)
      (createdTables (p.earlier i j)))
      (.addColumnWithDefault table column columnType default volatileDefault) = .ok w)
    (hw : w.status ≠ .unsafeChange) :
    p.Cleared ctx.engine.kind version i j
      (.addColumnWithDefault table column columnType default volatileDefault) := by
  have hrules := decision_addColumnWithDefault ctx table column columnType default volatileDefault
  -- Each question that the rules ask has an unsafe answer, which only a new table excuses.
  have hfresh {rule : String} (hrefused : Except.ok (some (Status.unsafeChange, rule)) =
      (.ok (some (v.status, v.rule)) : Outcome _)) (hrule : rule ≠ pendingNotNullRule) :
      p.Fresh i j table :=
    (fresh_of_decision hdecision (hdecision.trans hrefused.symm) hrule h hw).2
  obtain ⟨json, -, hjson⟩ := bind_eq_ok.mp (hrules.symm.trans hdecision)
  cases json with
  | true => exact .inl (hfresh hjson (by decide))
  | false =>
    obtain ⟨varies, hvaries, hdefault⟩ := bind_eq_ok.mp hjson
    cases varies with
    | true => exact .inl (hfresh hdefault (by decide))
    | false =>
      obtain ⟨fast, hfast, hrewrite⟩ := bind_eq_ok.mp hdefault
      cases fast with
      | false => exact .inl (hfresh hrewrite (by decide))
      | true =>
        obtain ⟨threshold, version', hthreshold, hversion', hreached⟩ :=
          supportsFeature_eq_ok.mp hfast
        rw [hthresholds] at hthreshold
        rw [hversion, Option.some.injEq] at hversion'
        rw [← hversion'] at hreached
        exact .inr ⟨hvaries, threshold, hthreshold, hreached⟩

/-- Where the rules have decided about an operation, and the second pass has not made the verdict
unsafe, the operation is let through. -/
theorem cleared_of_decision {version : Version}
    (hthresholds : ctx.thresholds = Thresholds.builtIn)
    (hversion : ctx.engine.version = some version)
    (hdecision : Rule.decision ctx op = .ok (some (v.status, v.rule)))
    (hs : ∀ op ∈ p.history i j, op.table.isScalar = true)
    (hrun : NotNullState.empty.run (p.history i j) = .ok known)
    (h : known.answer (exempted v op (createdTables (p.earlier i j))) op = .ok w)
    (hw : w.status ≠ .unsafeChange) : p.Cleared ctx.engine.kind version i j op := by
  cases op
  case createTable table force =>
    cases force with
    | false => rfl
    | true =>
      have hnone := (fresh_of_decision hdecision (decision_createTable ctx table true)
        (by decide) h hw).1
      cases hnone
  case addForeignKey table toTable column name validate =>
    cases validate with
    | false => exact .inl rfl
    | true => exact .inr (fresh_of_decision hdecision
        (decision_addForeignKey ctx table toTable column name true) (by decide) h hw).2
  case addCheckConstraint table expression name validate =>
    cases validate with
    | false => exact .inl rfl
    | true => exact .inr (fresh_of_decision hdecision
        (decision_addCheckConstraint ctx table expression name true) (by decide) h hw).2
  case setNotNull table column validate =>
    exact cleared_setNotNull hthresholds hversion hdecision hs hrun h hw
  case addColumnWithDefault table column columnType default volatileDefault =>
    exact cleared_addColumnWithDefault hthresholds hversion hdecision h hw
  all_goals exact trivial

/-- Where the version is known, the rules decide about every operation of which something is said
here. -/
theorem cleared_of_unknown {version : Version} {u : UnknownBehavior}
    (hthresholds : ctx.thresholds = Thresholds.builtIn)
    (hversion : ctx.engine.version = some version)
    (hunknown : Rule.decision ctx op = .error (.unknownBehavior u)) :
    p.Cleared ctx.engine.kind version i j op := by
  cases op
  case createTable table force =>
    rw [decision_createTable] at hunknown
    cases hunknown
  case addForeignKey table toTable column name validate =>
    rw [decision_addForeignKey] at hunknown
    cases hunknown
  case addCheckConstraint table expression name validate =>
    rw [decision_addCheckConstraint] at hunknown
    cases hunknown
  case setNotNull table column validate =>
    rw [decision_setNotNull] at hunknown
    split at hunknown
    · cases hunknown
    · split at hunknown
      · rename_i hpostgres
        rw [supportsFeature_notNullFromCheck hthresholds hpostgres hversion] at hunknown
        cases hunknown
      · cases hunknown
  case addColumnWithDefault table column columnType default volatileDefault =>
    rw [decision_addColumnWithDefault] at hunknown
    rcases bind_eq_error.mp hunknown with hjson | ⟨json, -, hunknown⟩
    · exact absurd hjson (isPlainJson_ne_unknown ctx columnType u)
    · cases json with
      | true => cases hunknown
      | false =>
        rcases bind_eq_error.mp hunknown with hvaries | ⟨varies, -, hunknown⟩
        · exact absurd hvaries (hasVolatileDefault_ne_unknown default volatileDefault u)
        · cases varies with
          | true => cases hunknown
          | false =>
            obtain ⟨threshold, hthreshold⟩ := find?_fastColumnDefault ctx.engine.kind
            rw [supportsFeature_of_version (by rw [hthresholds, hthreshold]) hversion] at hunknown
            cases hunknown
  all_goals exact trivial

end

/-- In a report that does not block, made for an engine with a known version and with the built-in
thresholds, every operation of a reported migration whose author does not vouch for it is let
through. -/
theorem cleared_of_not_blocking {config : Config} {kb : KnowledgeBase} {engine : Engine}
    {p : Plan} {r : Report} {version : Version} {reported : List Nat} {i j : Nat} {m : Migration}
    {op : Operation} (h : (analyze config kb engine p).outcome = .ok r)
    (hr : r.isBlocking = false) (hthresholds : config.thresholds = Thresholds.builtIn)
    (hversion : engine.version = some version)
    (hreported : config.reported (p.migrations.map (·.name)) = .ok reported) (hi : i ∈ reported)
    (hm : p.migrations[i]? = some m) (ha : m.assured = false)
    (hop : m.operations[j]? = some op) : p.Cleared engine.kind version i j op := by
  obtain ⟨v, known, w, hclass, hrun, hanswer, hw, hs⟩ :=
    verdict_of_not_blocking h hr hreported hi hm ha hop
  rcases (classify_cases hclass).2 with hdecision | ⟨u, hunknown⟩
  · exact cleared_of_decision hthresholds hversion hdecision hs hrun hanswer hw
  · exact cleared_of_unknown hthresholds hversion hunknown

/-- A plan that adds a check, validates it, and then forbids null in the column. -/
def checkFirst : Plan :=
  ⟨[⟨.text "add", [.addCheckConstraint (.text "users") (.text "email IS NOT NULL")
      (.text "email_present") false], false, false, false⟩,
    ⟨.text "validate", [.validateCheckConstraint (.text "users") (.text "email_present")],
      false, false, false⟩,
    ⟨.text "constrain", [.setNotNull (.text "users") (.text "email") true],
      false, false, false⟩]⟩

theorem cleared_checkFirst :
    checkFirst.Cleared .postgres { components := [12] } 2 0
      (.setNotNull (.text "users") (.text "email") true) := by
  obtain ⟨r, hr, hblocking⟩ : ∃ r, (analyze {} .builtIn
      ⟨.postgres, some { components := [12] }, Engine.defaultTimeZone⟩ checkFirst).outcome = .ok r ∧
        r.isBlocking = false := by
    refine ⟨_, rfl, ?_⟩
    rw [isBlocking_build]
    decide
  exact cleared_of_not_blocking hr hblocking rfl rfl rfl (i := 2) (j := 0) (by decide) rfl rfl rfl

end MigrationSafety
