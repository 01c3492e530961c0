import MigrationSafety.Proofs.Outcome
import MigrationSafety.Rule.Classify

/-!
# What the rules decide

The rules about a kind of operation, tried in order, come to a decision: a status and the rule that
gives it. For kinds whose operations may be unsafe the decision is written out here as one
computation from the fields of the operation, with the rules themselves no more in sight.

* `Rule.decision`: the decision about an operation;
* `classify_inversion`, `classify_cases`: a verdict is the decision, or says that the engine is not known well enough;
* `decision_createTable`, `decision_setNotNull` and others: the decision kind by kind;
* `supportsFeature_eq_ok`: when it is known whether an engine has a feature.
-/

namespace MigrationSafety

open Operation (Kind)

/-- The status and the rule of the verdict about an operation, if one of the rules decides. -/
def Rule.decision (ctx : Context) (op : Operation) : Outcome (Option (Status × String)) :=
  (Rule.first? ctx op (Rule.forKind Rule.table op.kind)).map (·.map fun r => (r.status, r.id))

/-- A verdict is that of the first rule that applies, or says that it is not known how the engine
behaves. -/
theorem classify_inversion {rules : List Rule} {ctx : Context} {kb : KnowledgeBase}
    {op : Operation} {v : Verdict} (h : (classify rules ctx kb op).outcome = .ok v) :
    (∃ u, Rule.first? ctx op (Rule.forKind rules op.kind) = .error (.unknownBehavior u) ∧
      v = (Ruling.unknown u (lockFor kb ctx.engine op)).verdict) ∨
    ∃ r rationale, Rule.first? ctx op (Rule.forKind rules op.kind) = .ok (some r) ∧
      v = ⟨r.status, rationale, r.remedy, lockFor kb ctx.engine op, r.id, false⟩ := by
  simp only [classify, Traced.outcome_bind_eq_ok, Traced.outcome_liftM] at h
  obtain ⟨ruling, hruling, _, -, _, -, h⟩ := h
  cases h
  simp only [Ruling.of] at hruling
  split at hruling
  · rename_i u hfirst
    cases hruling
    exact .inl ⟨u, hfirst, rfl⟩
  · cases hruling
  · cases hruling
  · rename_i r hfirst
    simp only [Ruling.ofRule, Rule.verdict, bind_eq_ok] at hruling
    obtain ⟨_, ⟨rationale, -, hverdict⟩, hruling⟩ := hruling
    cases hruling
    cases hverdict
    exact .inr ⟨r, rationale, hfirst, rfl⟩

/-- A verdict is what the rules decide, or says that it is not known how the engine behaves. -/
theorem classify_cases {ctx : Context} {kb : KnowledgeBase} {op : Operation} {v : Verdict}
    (h : (classify Rule.table ctx kb op).outcome = .ok v) :
    v.assured = false ∧ (Rule.decision ctx op = .ok (some (v.status, v.rule)) ∨
      ∃ u, Rule.decision ctx op = .error (.unknownBehavior u)) := by
  rcases classify_inversion h with ⟨u, hfirst, rfl⟩ | ⟨r, rationale, hfirst, rfl⟩
  · exact ⟨rfl, .inr ⟨u, by rw [Rule.decision, hfirst]; rfl⟩⟩
  · exact ⟨rfl, .inl (by rw [Rule.decision, hfirst]; rfl)⟩

theorem decision_createTable (ctx : Context) (table : Value) (force : Bool) :
    Rule.decision ctx (.createTable table force) =
      .ok (some (if force then (.unsafeChange, "create-table-force")
        else (.safe, "create-table"))) := by
  cases force <;> rfl

theorem decision_addForeignKey (ctx : Context) (table toTable column name : Value)
    (validate : Bool) :
    Rule.decision ctx (.addForeignKey table toTable column name validate) =
      .ok (some (if validate then (.unsafeChange, "add-foreign-key")
        else (.conditionallySafe, "add-foreign-key-not-valid"))) := by
  cases validate <;> rfl

theorem decision_addCheckConstraint (ctx : Context) (table expression name : Value)
    (validate : Bool) :
    Rule.decision ctx (.addCheckConstraint table expression name validate) =
      .ok (some (if validate then (.unsafeChange, "add-check-constraint")
        else (.conditionallySafe, "add-check-constraint-not-valid"))) := by
  cases validate <;> rfl

theorem first?_cons (ctx : Context) (op : Operation) (r : Rule) (rs : List Rule) :
    Rule.first? ctx op (r :: rs) = (r.appliesTo ctx op).bind fun b =>
      if b then .ok (some r) else Rule.first? ctx op rs := rfl

/-- A rule about Postgres asks for its condition there. -/
theorem appliesTo_postgresOnly {ctx : Context} {op : Operation} {r : Rule}
    (hr : r.postgresOnly = true) :
    r.appliesTo ctx op =
      if ctx.engine.isPostgres then r.condition.holds ctx op else .ok false := by
  rw [Rule.appliesTo, hr]
  cases ctx.engine.isPostgres <;> rfl

theorem decision_setNotNull (ctx : Context) (table column : Value) (validate : Bool) :
    Rule.decision ctx (.setNotNull table column validate) =
      if !validate then .ok (some (.conditionallySafe, "set-not-null"))
      else if ctx.engine.isPostgres then
        do
          let trusted ← ctx.supportsFeature notNullFromCheck
          .ok (some (if trusted then (.conditionallySafe, "set-not-null-needs-check")
            else (.unsafeChange, "set-not-null-scan")))
      else .ok (some (.unsafeChange, "set-not-null-copy")) := by
  have hrules : Rule.forKind Rule.table .setNotNull = [Rule.columnRules[13], Rule.columnRules[14],
    Rule.columnRules[15], Rule.columnRules[16]] := rfl
  rw [Rule.decision, Operation.kind, hrules]
  cases validate with
  | false => rfl
  | true =>
    rw [first?_cons, first?_cons, first?_cons,
      appliesTo_postgresOnly (r := Rule.columnRules[14]) rfl,
      appliesTo_postgresOnly (r := Rule.columnRules[15]) rfl]
    cases ctx.engine.isPostgres with
    | false => rfl
    | true =>
      show ((ctx.supportsFeature notNullFromCheck).bind _).map _ = _
      cases ctx.supportsFeature notNullFromCheck with
      | error e => rfl
      | ok trusted => cases trusted <;> rfl

/-- Whether a column is of the plain JSON type on an engine where that matters. -/
def isPlainJson (ctx : Context) (columnType : Value) : Outcome Bool :=
  if ctx.engine.isPostgres then (ColumnType.ofValue columnType).map (·.isJson) else .ok false

theorem isPlainJson_ne_unknown (ctx : Context) (columnType : Value) (u : UnknownBehavior) :
    isPlainJson ctx columnType ≠ .error (.unknownBehavior u) := by
  unfold isPlainJson
  split
  · cases columnType
    case text s =>
      simp only [ColumnType.ofValue]
      cases ColumnType.parse s <;> simp [Except.mapError, Except.map]
    all_goals simp [ColumnType.ofValue, Except.map]
  · simp

theorem hasVolatileDefault_ne_unknown (default : Value) (volatileDefault : Bool)
    (u : UnknownBehavior) :
    Operation.hasVolatileDefault default volatileDefault ≠ .error (.unknownBehavior u) := by
  unfold Operation.hasVolatileDefault Operation.isVolatileValue
  split
  · simp
  · split
    · simp
    · split <;> simp

/-- A default is written into every row by some engines, and by all if it differs from row to
row. -/
theorem decision_addColumnWithDefault (ctx : Context) (table column columnType default : Value)
    (volatileDefault : Bool) :
    Rule.decision ctx (.addColumnWithDefault table column columnType default volatileDefault) =
      (do
        let json ← isPlainJson ctx columnType
        if json then .ok (some (.unsafeChange, "add-json-column"))
        else do
          let varies ← Operation.hasVolatileDefault default volatileDefault
          if varies then .ok (some (.unsafeChange, "add-column-volatile-default"))
          else do
            let fast ← ctx.supportsFeature fastColumnDefault
            .ok (some (if fast then (.safe, "add-column-default")
              else (.unsafeChange, "add-column-default-rewrite")))) := by
  have hrules : Rule.forKind Rule.table .addColumnWithDefault = [Rule.columnRules[0],
    Rule.columnRules[2], Rule.columnRules[3], Rule.columnRules[4]] := rfl
  rw [Rule.decision, Operation.kind, hrules, first?_cons,
    appliesTo_postgresOnly (r := Rule.columnRules[0]) rfl]
  show ((isPlainJson ctx columnType).bind _).map _ = (isPlainJson ctx columnType).bind _
  cases isPlainJson ctx columnType with
  | error e => rfl
  | ok json =>
    cases json with
    | true => rfl
    | false =>
      show ((Operation.hasVolatileDefault default volatileDefault).bind _).map _ =
        (Operation.hasVolatileDefault default volatileDefault).bind _
      cases Operation.hasVolatileDefault default volatileDefault with
      | error e => rfl
      | ok varies =>
        cases varies with
        | true => rfl
        | false =>
          show (((ctx.supportsFeature fastColumnDefault).map _).bind _).map _ = _
          cases ctx.supportsFeature fastColumnDefault with
          | error e => rfl
          | ok fast => cases fast <;> rfl

/-! ## Features of engines -/

/-- It is known whether an engine has a feature where a threshold and the version are known. -/
theorem supportsFeature_eq_ok {ctx : Context} {feature : String} {b : Bool} :
    ctx.supportsFeature feature = .ok b ↔ ∃ threshold version,
      ctx.thresholds.find? feature ctx.engine.kind = some threshold ∧
        ctx.engine.version = some version ∧ version.atLeast threshold = b := by
  rw [Context.supportsFeature, Context.supports]
  cases ctx.thresholds.find? feature ctx.engine.kind <;> cases ctx.engine.version <;>
    simp [Except.mapError]

theorem supportsFeature_of_version {ctx : Context} {feature : String} {threshold version : Version}
    (ht : ctx.thresholds.find? feature ctx.engine.kind = some threshold)
    (hv : ctx.engine.version = some version) :
    ctx.supportsFeature feature = .ok (version.atLeast threshold) :=
  supportsFeature_eq_ok.mpr ⟨threshold, version, ht, hv, rfl⟩

theorem find?_fastColumnDefault (kind : EngineKind) :
    ∃ threshold, Thresholds.builtIn.find? fastColumnDefault kind = some threshold := by
  cases kind <;> exact ⟨_, rfl⟩

/-- A Postgres of a known version trusts validated checks from version 12 on. -/
theorem supportsFeature_notNullFromCheck {ctx : Context} {version : Version}
    (hthresholds : ctx.thresholds = Thresholds.builtIn) (hpostgres : ctx.engine.isPostgres = true)
    (hversion : ctx.engine.version = some version) :
    ctx.supportsFeature notNullFromCheck =
      .ok (version.atLeast ⟨[12], List.cons_ne_nil 12 []⟩) := by
  refine supportsFeature_of_version ?_ hversion
  have hkind : ctx.engine.kind = .postgres := beq_iff_eq.mp hpostgres
  rw [hthresholds, hkind]
  rfl

end MigrationSafety
