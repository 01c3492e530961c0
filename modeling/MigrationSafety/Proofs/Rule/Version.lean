import MigrationSafety.Proofs.Rule.Total
import MigrationSafety.Proofs.VersionOrder
import MigrationSafety.Sequencing.NotNull

/-!
# Rules and the version of the engine

The same operation is judged for several versions of one engine. A rule looks at the version only
through the features of the engine, so what the rules come to without a version holds for every
version, and a decision that differs between two versions hangs on one feature.

* `Context.withVersion`: the same context with another version of the engine;
* `Rule.neverGuessed_first?`: without a version the rules cannot tell, or come to the same for every
  version;
* `decision_alterColumnType`: the decision about a change of type;
* `Rule.Asks`, `Rule.hangsOnFeature`: a decision is the same for every version, or hangs on one
  feature;
* `judgement_newer`, `judgement_unknown`: the judgements for two versions, and for no version and
  one.
-/

namespace MigrationSafety

open Operation (Kind)

/-- An engine of a kind of which nothing else is known. -/
def Engine.ofKind (kind : EngineKind) : Engine :=
  ⟨kind, none, Engine.defaultTimeZone⟩

/-- The same engine with another version, or with none. -/
def Engine.withVersion (e : Engine) (version : Option Version) : Engine :=
  { e with version }

/-- The same context with another version of the engine, or with none. -/
def Context.withVersion (ctx : Context) (version : Option Version) : Context :=
  { ctx with engine := ctx.engine.withVersion version }

variable {ctx : Context} {op : Operation}

@[simp] theorem isPostgres_withVersion (version : Option Version) :
    (ctx.withVersion version).engine.isPostgres = ctx.engine.isPostgres := rfl

@[simp] theorem isPlainJson_withVersion (version : Option Version) (columnType : Value) :
    isPlainJson (ctx.withVersion version) columnType = isPlainJson ctx columnType := rfl

@[simp] theorem requirement_withVersion (version : Option Version) (old new : ColumnType) :
    TypeChange.requirement (ctx.withVersion version).engine old new =
      TypeChange.requirement ctx.engine old new := rfl

/-! ## No version -/

/-- Without a version it cannot be told whether the engine has a feature. -/
theorem supportsFeature_unknown (ctx : Context) (feature : String) :
    ∃ u, (ctx.withVersion none).supportsFeature feature = .error (.unknownBehavior u) := by
  rw [Context.supportsFeature, Context.supports]
  cases (ctx.withVersion none).thresholds.find? feature (ctx.withVersion none).engine.kind with
  | none => exact ⟨_, rfl⟩
  | some threshold => exact ⟨_, rfl⟩

/-- What is computed from a context cannot be told without a version, or is the same for every
version. -/
def NeverGuessed {α : Type} (f : Context → Outcome α) (ctx : Context) : Prop :=
  (∃ u, f (ctx.withVersion none) = .error (.unknownBehavior u)) ∨
    ∀ version, f (ctx.withVersion version) = f (ctx.withVersion none)

theorem NeverGuessed.bind {α β : Type} {f : Context → Outcome α} {g : Context → α → Outcome β}
    (hf : NeverGuessed f ctx)
    (hg : ∀ a, f (ctx.withVersion none) = .ok a → NeverGuessed (fun ctx => g ctx a) ctx) :
    NeverGuessed (fun ctx => (f ctx).bind (g ctx)) ctx := by
  simp only [NeverGuessed] at hf hg ⊢
  rcases hf with ⟨u, hu⟩ | hsame
  · refine .inl ⟨u, ?_⟩
    rw [hu]
    rfl
  · cases hnone : f (ctx.withVersion none) with
    | error failure =>
      refine .inr fun version => ?_
      rw [hsame, hnone]
      rfl
    | ok a =>
      refine (hg a hnone).imp_right fun hsame' version => ?_
      rw [hsame, hnone]
      exact hsame' version

theorem neverGuessed_supportsFeature (feature : String) :
    NeverGuessed (·.supportsFeature feature) ctx :=
  .inl (supportsFeature_unknown ctx feature)

theorem neverGuessed_typeKeepsTable (fromType toType : Value) :
    NeverGuessed (typeKeepsTable · fromType toType) ctx := by
  refine .bind (.inr fun _ => rfl) fun old _ => .bind (.inr fun _ => rfl) fun new _ => ?_
  rw [NeverGuessed]
  simp only [requirement_withVersion]
  cases TypeChange.requirement ctx.engine old new with
  | never => exact .inr fun _ => rfl
  | always => exact .inr fun _ => rfl
  | feature name => exact neverGuessed_supportsFeature name

theorem Condition.neverGuessed_holds (c : Condition) : NeverGuessed (c.holds · op) ctx := by
  cases c
  case defaultRewrites =>
    obtain ⟨u, hu⟩ := supportsFeature_unknown ctx fastColumnDefault
    refine .inl ⟨u, ?_⟩
    show ((ctx.withVersion none).supportsFeature fastColumnDefault).map (!·) = _
    rw [hu]
    rfl
  case checkTrusted => exact neverGuessed_supportsFeature notNullFromCheck
  case typeKeepsTable =>
    cases op
    case alterColumnType => exact neverGuessed_typeKeepsTable _ _
    all_goals exact .inr fun _ => rfl
  all_goals exact .inr fun _ => rfl

theorem Rule.neverGuessed_appliesTo (r : Rule) : NeverGuessed (r.appliesTo · op) ctx := by
  cases hforeign : r.postgresOnly && !ctx.engine.isPostgres with
  | true =>
    have hnot (version : Option Version) :
        r.appliesTo (ctx.withVersion version) op = .ok false := by
      rw [Rule.appliesTo, isPostgres_withVersion, hforeign]
      rfl
    exact .inr fun version => (hnot version).trans (hnot none).symm
  | false =>
    have hasks (version : Option Version) : r.appliesTo (ctx.withVersion version) op =
        r.condition.holds (ctx.withVersion version) op := by
      rw [Rule.appliesTo, isPostgres_withVersion, hforeign]
      rfl
    simp only [NeverGuessed, hasks]
    exact r.condition.neverGuessed_holds

/-- Without a version the rules cannot tell, or come to the same for every version. -/
theorem Rule.neverGuessed_first? (rs : List Rule) : NeverGuessed (Rule.first? · op rs) ctx := by
  induction rs with
  | nil => exact .inr fun _ => rfl
  | cons r rs ih =>
    refine r.neverGuessed_appliesTo.bind fun applies _ => ?_
    cases applies with
    | true => exact .inr fun _ => rfl
    | false => exact ih

/-! ## Decisions and features -/

/-- A change of type keeps the table or not. -/
theorem decision_alterColumnType (ctx : Context) (table column fromType toType : Value) :
    Rule.decision ctx (.alterColumnType table column fromType toType) =
      (typeKeepsTable ctx fromType toType).bind fun keeps =>
        .ok (some (if keeps then (.safe, "change-column-type-safe")
          else (.unsafeChange, "change-column-type"))) := by
  have hrules : Rule.forKind Rule.table .alterColumnType =
    [Rule.columnRules[7], Rule.columnRules[8]] := rfl
  rw [Rule.decision, Operation.kind, hrules]
  show ((typeKeepsTable ctx fromType toType).bind _).map _ = _
  cases typeKeepsTable ctx fromType toType with
  | error e => rfl
  | ok keeps => cases keeps <;> rfl

/-- Whether a condition looks at the features of the engine. -/
def Condition.isVersioned : Condition → Bool
  | .defaultRewrites | .typeKeepsTable | .checkTrusted => true
  | _ => false

theorem Condition.holds_withVersion {c : Condition} (h : c.isVersioned = false)
    (version : Option Version) : c.holds (ctx.withVersion version) op = c.holds ctx op := by
  cases c <;> first | rfl | cases h

theorem Rule.first?_withVersion {rs : List Rule}
    (h : rs.all (!·.condition.isVersioned) = true) (version : Option Version) :
    Rule.first? (ctx.withVersion version) op rs = Rule.first? ctx op rs := by
  induction rs with
  | nil => rfl
  | cons r rs ih =>
    simp only [List.all_cons, Bool.and_eq_true, Bool.not_eq_true'] at h
    rw [first?_cons, first?_cons, ih h.2, Rule.appliesTo, Rule.appliesTo,
      Condition.holds_withVersion h.1, isPostgres_withVersion]

/-- What does not matter for a new table: a verdict that the pass for new tables makes safe, or one
that is safe by itself and asks nothing. -/
def SafeOnNewTable (judged : Status × String) : Prop :=
  exemptRules.contains judged.2 = true ∨ judged.1 = .safe ∧ judged.2 ≠ pendingNotNullRule

/-- A danger that does not matter for a new table. -/
structure Exemptible (status : Status) (judged : Status × String) : Prop where
  status : judged.1 = status
  exempt : exemptRules.contains judged.2 = true
  asksNothing : judged.2 ≠ pendingNotNullRule

/-- The decision about an operation hangs on one feature of the engine. An engine without the
feature makes it unsafe; both decisions do not matter for a new table. -/
structure Rule.Asks (ctx : Context) (op : Operation) (feature : String)
    (without withFeature : Status × String) : Prop where
  decision : ∀ version, Rule.decision (ctx.withVersion version) op =
    ((ctx.withVersion version).supportsFeature feature).bind fun supported =>
      .ok (some (if supported then withFeature else without))
  without : Exemptible .unsafeChange without
  withFeature : SafeOnNewTable withFeature

/-- A decision is the same for every version. -/
def Rule.IgnoresVersion (ctx : Context) (op : Operation) : Prop :=
  ∀ version, Rule.decision (ctx.withVersion version) op = Rule.decision ctx op

theorem Rule.ignoresVersion_of_conditions
    (h : (Rule.forKind Rule.table op.kind).all (!·.condition.isVersioned) = true) :
    Rule.IgnoresVersion ctx op := by
  intro version
  rw [Rule.decision, Rule.decision, Rule.first?_withVersion h]

/-- What can be said about the decisions for all versions of an engine. -/
def Rule.HangsOnFeature (ctx : Context) (op : Operation) : Prop :=
  Rule.IgnoresVersion ctx op ∨
    ∃ feature without withFeature, Rule.Asks ctx op feature without withFeature

theorem hangsOnFeature_setNotNull (table column : Value) (validate : Bool) :
    Rule.HangsOnFeature ctx (.setNotNull table column validate) := by
  cases validate with
  | false => exact .inl fun _ => rfl
  | true =>
    by_cases hpostgres : ctx.engine.isPostgres = true
    · refine .inr ⟨notNullFromCheck, (.unsafeChange, "set-not-null-scan"),
        (.conditionallySafe, "set-not-null-needs-check"), fun version => ?_,
        ⟨rfl, by decide, by decide⟩, .inl (by decide)⟩
      rw [decision_setNotNull, isPostgres_withVersion, hpostgres]
      rfl
    · refine .inl fun version => ?_
      rw [decision_setNotNull, decision_setNotNull, isPostgres_withVersion, if_neg hpostgres,
        if_neg hpostgres]

theorem hangsOnFeature_addColumnWithDefault (table column columnType default : Value)
    (volatileDefault : Bool) : Rule.HangsOnFeature ctx
      (.addColumnWithDefault table column columnType default volatileDefault) := by
  -- Before the rules ask for the feature they ask two questions that have nothing to do with it.
  by_cases hasks : isPlainJson ctx columnType = .ok false ∧
      Operation.hasVolatileDefault default volatileDefault = .ok false
  · refine .inr ⟨fastColumnDefault, (.unsafeChange, "add-column-default-rewrite"),
      (.safe, "add-column-default"), fun version => ?_,
      ⟨rfl, by decide, by decide⟩, .inr ⟨rfl, by decide⟩⟩
    rw [decision_addColumnWithDefault, isPlainJson_withVersion, hasks.1, hasks.2]
    rfl
  · refine .inl fun version => ?_
    rw [decision_addColumnWithDefault, decision_addColumnWithDefault, isPlainJson_withVersion]
    match hjson : isPlainJson ctx columnType with
    | .error e => rfl
    | .ok true => rfl
    | .ok false =>
      match hvaries : Operation.hasVolatileDefault default volatileDefault with
      | .error e => rfl
      | .ok true => rfl
      | .ok false => exact absurd ⟨hjson, hvaries⟩ hasks

/-- Whether a change between two types keeps the table, given that both types can be read. -/
theorem typeKeepsTable_eq {fromType toType : Value} {old new : ColumnType}
    (hold : ColumnType.ofValue fromType = .ok old) (hnew : ColumnType.ofValue toType = .ok new) :
    typeKeepsTable ctx fromType toType =
      match TypeChange.requirement ctx.engine old new with
      | .never => .ok false
      | .always => .ok true
      | .feature name => ctx.supportsFeature name := by
  rw [typeKeepsTable, hold, hnew]
  rfl

theorem typeKeepsTable_ignoresVersion {fromType toType : Value}
    (h : ∀ old new feature, ColumnType.ofValue fromType = .ok old →
      ColumnType.ofValue toType = .ok new →
      TypeChange.requirement ctx.engine old new ≠ .feature feature) (version : Option Version) :
    typeKeepsTable (ctx.withVersion version) fromType toType =
      typeKeepsTable ctx fromType toType := by
  cases hold : ColumnType.ofValue fromType with
  | error e => rw [typeKeepsTable, typeKeepsTable, hold]; rfl
  | ok old =>
    cases hnew : ColumnType.ofValue toType with
    | error e => rw [typeKeepsTable, typeKeepsTable, hold, hnew]; rfl
    | ok new =>
      rw [typeKeepsTable_eq hold hnew, typeKeepsTable_eq hold hnew, requirement_withVersion]
      cases hrequirement : TypeChange.requirement ctx.engine old new with
      | never => rfl
      | always => rfl
      | feature name => exact absurd hrequirement (h old new name hold hnew)

theorem hangsOnFeature_alterColumnType (table column fromType toType : Value) :
    Rule.HangsOnFeature ctx (.alterColumnType table column fromType toType) := by
  by_cases hasks : ∃ old new feature, ColumnType.ofValue fromType = .ok old ∧
      ColumnType.ofValue toType = .ok new ∧
      TypeChange.requirement ctx.engine old new = .feature feature
  · obtain ⟨old, new, feature, hold, hnew, hrequirement⟩ := hasks
    refine .inr ⟨feature, (.unsafeChange, "change-column-type"),
      (.safe, "change-column-type-safe"), fun version => ?_,
      ⟨rfl, by decide, by decide⟩, .inr ⟨rfl, by decide⟩⟩
    rw [decision_alterColumnType, typeKeepsTable_eq hold hnew, requirement_withVersion,
      hrequirement]
  · refine .inl fun version => ?_
    rw [decision_alterColumnType, decision_alterColumnType, typeKeepsTable_ignoresVersion]
    exact fun old new feature hold hnew hrequirement =>
      hasks ⟨old, new, feature, hold, hnew, hrequirement⟩

/-- A decision is the same for every version, or hangs on one feature of the engine. -/
theorem Rule.hangsOnFeature (ctx : Context) (op : Operation) : Rule.HangsOnFeature ctx op := by
  cases op
  case setNotNull => exact hangsOnFeature_setNotNull _ _ _
  case addColumnWithDefault => exact hangsOnFeature_addColumnWithDefault _ _ _ _ _
  case alterColumnType => exact hangsOnFeature_alterColumnType _ _ _ _
  all_goals exact .inl (Rule.ignoresVersion_of_conditions rfl)

/-! ## Judgements for two versions -/

/-- How a judgement may differ from another one: not at all, or the first one is a danger with the
given status, and neither matters for a new table. -/
def MayDiffer (danger : Status) (a b : Status × String) : Prop :=
  a = b ∨ Exemptible danger a ∧ SafeOnNewTable b

namespace Rule

theorem judgement_of_ignoresVersion (h : Rule.IgnoresVersion ctx op) (version : Option Version) :
    Rule.judgement (ctx.withVersion version) op = Rule.judgement ctx op := by
  rw [judgement, judgement, h version]

theorem alike_of_ignoresVersion (h : Rule.IgnoresVersion ctx op) (danger : Status)
    (version version' : Option Version) :
    Alike (MayDiffer danger) (Rule.judgement (ctx.withVersion version) op)
      (Rule.judgement (ctx.withVersion version') op) := by
  rw [judgement_of_ignoresVersion h, judgement_of_ignoresVersion h]
  exact .refl _ fun _ _ => .inl rfl

variable {feature : String} {without withFeature : Status × String}

/-- The judgement where the rules ask for a feature with a known threshold. -/
theorem Asks.judgement_of_threshold (h : Rule.Asks ctx op feature without withFeature)
    {threshold : Version} (ht : ctx.thresholds.find? feature ctx.engine.kind = some threshold)
    (version : Version) :
    Rule.judgement (ctx.withVersion (some version)) op =
      .ok (if version.atLeast threshold then withFeature else without) := by
  have hsupported : (ctx.withVersion (some version)).supportsFeature feature =
      .ok (version.atLeast threshold) := supportsFeature_of_version ht rfl
  rw [judgement, h.decision, hsupported]
  rfl

/-- The judgement where it cannot be told whether the engine has the feature. -/
theorem Asks.judgement_of_unknown (h : Rule.Asks ctx op feature without withFeature)
    {version : Option Version} {u : UnknownBehavior}
    (hu : (ctx.withVersion version).supportsFeature feature = .error (.unknownBehavior u)) :
    Rule.judgement (ctx.withVersion version) op =
      .ok (.conditionallySafe, unknownBehaviorRule) := by
  rw [judgement, h.decision, hu]
  rfl

theorem supportsFeature_of_no_threshold
    (ht : ctx.thresholds.find? feature ctx.engine.kind = none) (version : Option Version) :
    ∃ u, (ctx.withVersion version).supportsFeature feature = .error (.unknownBehavior u) := by
  have hnone : (ctx.withVersion version).thresholds.find? feature
      (ctx.withVersion version).engine.kind = none := ht
  refine ⟨⟨feature, ctx.engine.kind, false⟩, ?_⟩
  simp only [Context.supportsFeature, Context.supports, hnone]
  rfl

/-- The judgements for a version and a newer one are the same, or the older version lacks a feature
and makes the operation unsafe. -/
theorem judgement_newer (ctx : Context) (op : Operation) {v w : Version}
    (hvw : w.atLeast v = true) :
    Alike (MayDiffer .unsafeChange) (Rule.judgement (ctx.withVersion (some v)) op)
      (Rule.judgement (ctx.withVersion (some w)) op) := by
  rcases Rule.hangsOnFeature ctx op with hsame | ⟨feature, without, withFeature, hasks⟩
  · exact alike_of_ignoresVersion hsame _ _ _
  · cases ht : ctx.thresholds.find? feature ctx.engine.kind with
    | none =>
      obtain ⟨u, hu⟩ := supportsFeature_of_no_threshold ht (some v)
      obtain ⟨u', hu'⟩ := supportsFeature_of_no_threshold ht (some w)
      rw [hasks.judgement_of_unknown hu, hasks.judgement_of_unknown hu']
      exact .ok (.inl rfl)
    | some threshold =>
      rw [hasks.judgement_of_threshold ht, hasks.judgement_of_threshold ht]
      cases hv : v.atLeast threshold with
      | true =>
        rw [Version.atLeast_trans hvw hv]
        exact .ok (.inl rfl)
      | false =>
        cases w.atLeast threshold with
        | true => exact .ok (.inr ⟨hasks.without, hasks.withFeature⟩)
        | false => exact .ok (.inl rfl)

/-- The judgements for no version and for one are the same, or the rules cannot tell without a
version. -/
theorem judgement_unknown (ctx : Context) (op : Operation) (version : Version) :
    Alike (MayDiffer .conditionallySafe) (Rule.judgement (ctx.withVersion none) op)
      (Rule.judgement (ctx.withVersion (some version)) op) := by
  rcases Rule.hangsOnFeature ctx op with hsame | ⟨feature, without, withFeature, hasks⟩
  · exact alike_of_ignoresVersion hsame _ _ _
  · obtain ⟨u, hu⟩ := supportsFeature_unknown ctx feature
    rw [hasks.judgement_of_unknown hu]
    have hunknown : Exemptible .conditionallySafe (.conditionallySafe, unknownBehaviorRule) :=
      ⟨rfl, by decide, by decide⟩
    cases ht : ctx.thresholds.find? feature ctx.engine.kind with
    | none =>
      obtain ⟨u', hu'⟩ := supportsFeature_of_no_threshold ht (some version)
      rw [hasks.judgement_of_unknown hu']
      exact .ok (.inl rfl)
    | some threshold =>
      rw [hasks.judgement_of_threshold ht]
      cases version.atLeast threshold with
      | true => exact .ok (.inr ⟨hunknown, hasks.withFeature⟩)
      | false => exact .ok (.inr ⟨hunknown, .inl hasks.without.exempt⟩)

end Rule

end MigrationSafety
