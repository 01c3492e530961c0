import MigrationSafety.Proofs.ColumnType.Change
import MigrationSafety.Proofs.Rule.Version

/-!
# The thresholds that rules ask for

A rule looks at the thresholds through one question only: whether the engine reaches the threshold
of a feature. So a verdict hangs on the entries of the features that are asked for and of the kind
of the engine, and on no other entry.

* `Rule.queriedFeatures`, `Rule.Queries`: the features that rules ask for, and what it means to ask;
* `Rule.queries_iff`: these are all of them;
* `AsksOnce`: what is computed from a context asks for one feature at most;
* `Rule.asksOnce_appliesTo`: the rules of the table do;
* `classify_withThresholds`: the verdict under other thresholds with the same answers.
-/

namespace MigrationSafety

/-- The same context with other thresholds. -/
def Context.withThresholds (ctx : Context) (thresholds : Thresholds) : Context :=
  { ctx with thresholds }

namespace Rule

/-- The features that rules ask for. -/
def queriedFeatures : List String :=
  [fastColumnDefault, notNullFromCheck, TypeChange.binaryCoercible, TypeChange.decimalPrecision,
    TypeChange.timestampConversion, TypeChange.varcharExtension]

/-- Whether some rule asks for a feature: there is an operation about which the rule cannot tell as
long as it does not know whether the engine has the feature. -/
def Queries (feature : String) : Prop :=
  ∃ r ∈ table, ∃ ctx op u, op.kind ∈ r.kinds ∧
    r.appliesTo ctx op = .error (.unknownBehavior u) ∧ u.feature = feature

end Rule

/-! ## One question at most -/

/-- What is computed from a context has nothing to do with the thresholds, or is made of the answer
whether the engine has a feature that rules ask for. -/
def AsksOnce {α : Type} (f : Context → Outcome α) (ctx : Context) : Prop :=
  ((∀ t, f (ctx.withThresholds t) = f ctx) ∧ ∀ u, f ctx ≠ .error (.unknownBehavior u)) ∨
    ∃ feature ∈ Rule.queriedFeatures, ∃ g : Bool → α, ∀ t,
      f (ctx.withThresholds t) = ((ctx.withThresholds t).supportsFeature feature).map g

variable {ctx : Context} {op : Operation}

theorem supportsFeature_eq_unknown {feature : String} {u : UnknownBehavior}
    (h : ctx.supportsFeature feature = .error (.unknownBehavior u)) : u.feature = feature := by
  rw [Context.supportsFeature, mapError_eq_error] at h
  obtain ⟨u', hu', heq⟩ := h
  cases heq
  rw [Context.supports] at hu'
  split at hu'
  · cases hu'
    rfl
  · split at hu' <;> cases hu'
    rfl

/-- Whether the engine has a feature hangs on one entry of the thresholds. -/
theorem supportsFeature_withThresholds {feature : String} {t : Thresholds}
    (h : t.find? feature ctx.engine.kind = ctx.thresholds.find? feature ctx.engine.kind) :
    (ctx.withThresholds t).supportsFeature feature = ctx.supportsFeature feature := by
  rw [Context.supportsFeature, Context.supportsFeature]
  congr 1
  simp only [Context.supports, Context.withThresholds, h]

namespace AsksOnce

variable {α : Type} {f : Context → Outcome α}

theorem of_const {x : Outcome α} (hx : ∀ u, x ≠ .error (.unknownBehavior u)) :
    AsksOnce (fun _ => x) ctx :=
  .inl ⟨fun _ => rfl, hx⟩

/-- What comes after a step that has nothing to do with the thresholds. -/
theorem bind_same {β : Type} {x : Outcome α} {g : Context → α → Outcome β}
    (hx : ∀ u, x ≠ .error (.unknownBehavior u))
    (hg : ∀ a, x = .ok a → AsksOnce (fun ctx => g ctx a) ctx) :
    AsksOnce (fun ctx => x.bind (g ctx)) ctx := by
  cases x with
  | error failure => exact of_const (x := .error failure) fun u hu => hx u (by cases hu; rfl)
  | ok a => exact hg a rfl

/-- What asks once is the same under thresholds with the same answers. -/
theorem eq_withThresholds (hf : AsksOnce f ctx) {t : Thresholds}
    (h : ∀ feature ∈ Rule.queriedFeatures,
      t.find? feature ctx.engine.kind = ctx.thresholds.find? feature ctx.engine.kind) :
    f (ctx.withThresholds t) = f ctx := by
  rcases hf with ⟨hsame, -⟩ | ⟨feature, hfeature, g, hg⟩
  · exact hsame t
  · calc f (ctx.withThresholds t)
        = ((ctx.withThresholds t).supportsFeature feature).map g := hg t
      _ = (ctx.supportsFeature feature).map g := by
        rw [supportsFeature_withThresholds (h feature hfeature)]
      _ = f ctx := (hg ctx.thresholds).symm

/-- What asks once cannot tell for want of a feature that rules ask for. -/
theorem mem_of_eq_unknown (hf : AsksOnce f ctx) {u : UnknownBehavior}
    (h : f ctx = .error (.unknownBehavior u)) : u.feature ∈ Rule.queriedFeatures := by
  rcases hf with ⟨-, hknown⟩ | ⟨feature, hfeature, g, hg⟩
  · exact absurd h (hknown u)
  · have hasked : (ctx.supportsFeature feature).map g = .error (.unknownBehavior u) :=
      (hg ctx.thresholds).symm.trans h
    cases hsupports : ctx.supportsFeature feature with
    | ok supported =>
      rw [hsupports] at hasked
      cases hasked
    | error failure =>
      rw [hsupports] at hasked
      cases hasked
      rw [supportsFeature_eq_unknown hsupports]
      exact hfeature

end AsksOnce

theorem ColumnType.ofValue_ne_unknown (v : Value) (u : UnknownBehavior) :
    ColumnType.ofValue v ≠ .error (.unknownBehavior u) := by
  cases v
  case text s =>
    rw [ColumnType.ofValue]
    cases ColumnType.parse s <;> simp [Except.mapError]
  all_goals
    intro h
    cases h

/-- What a change of type needs is a feature that rules ask for. -/
theorem TypeChange.mem_queriedFeatures {engine : Engine} {old new : ColumnType} {feature : String}
    (h : requirement engine old new = .feature feature) : feature ∈ Rule.queriedFeatures := by
  have hrelations : ∀ names ∈ relations, names.2.2 ∈ Rule.queriedFeatures := by decide
  rw [requirement] at h
  split at h
  · exact hrelations _ (widens_of_onPostgres h).names
  · have hne : old ≠ new := by
      rintro rfl
      rw [onMysql_eq_always_iff.mpr rfl] at h
      cases h
    rw [((onMysql_eq_feature_iff hne).mp h).2]
    decide

theorem asksOnce_typeKeepsTable (fromType toType : Value) :
    AsksOnce (typeKeepsTable · fromType toType) ctx := by
  refine .bind_same (ColumnType.ofValue_ne_unknown fromType) fun old _ =>
    .bind_same (ColumnType.ofValue_ne_unknown toType) fun new _ => ?_
  -- The requirement hangs on the engine, which is the same under all thresholds.
  cases hrequirement : TypeChange.requirement ctx.engine old new with
  | never =>
    refine .inl ⟨fun t => ?_, fun u => ?_⟩
    · simp only [Context.withThresholds, hrequirement]
    · simp [hrequirement]
  | always =>
    refine .inl ⟨fun t => ?_, fun u => ?_⟩
    · simp only [Context.withThresholds, hrequirement]
    · simp [hrequirement]
  | feature name =>
    refine .inr ⟨name, TypeChange.mem_queriedFeatures hrequirement, id, fun t => ?_⟩
    simp only [Context.withThresholds, hrequirement]
    cases Context.supportsFeature _ name <;> rfl

/-- A condition asks for one feature at most. -/
theorem Condition.asksOnce_holds (c : Condition) : AsksOnce (c.holds · op) ctx := by
  cases c
  case defaultRewrites => exact .inr ⟨fastColumnDefault, by decide, (!·), fun _ => rfl⟩
  case checkTrusted =>
    refine .inr ⟨notNullFromCheck, by decide, id, fun t => ?_⟩
    show (ctx.withThresholds t).supportsFeature notNullFromCheck = _
    cases (ctx.withThresholds t).supportsFeature notNullFromCheck <;> rfl
  case typeKeepsTable =>
    cases op
    case alterColumnType => exact asksOnce_typeKeepsTable _ _
    all_goals exact .of_const nofun
  case plainJson =>
    have hread (columnType : Value) (u : UnknownBehavior) :
        (ColumnType.ofValue columnType).map ColumnType.isJson ≠ .error (.unknownBehavior u) := by
      intro h
      cases htype : ColumnType.ofValue columnType with
      | ok t => rw [htype] at h; cases h
      | error failure =>
        rw [htype] at h
        cases h
        exact ColumnType.ofValue_ne_unknown columnType u htype
    cases op
    case addColumn columnType => exact .of_const (hread columnType)
    case addColumnWithDefault columnType _ _ => exact .of_const (hread columnType)
    all_goals exact .of_const nofun
  case defaultVaries =>
    cases op
    case addColumnWithDefault => exact .of_const (hasVolatileDefault_ne_unknown _ _)
    all_goals exact .of_const nofun
  all_goals
    refine .inl ⟨fun _ => rfl, fun u h => ?_⟩
    cases op <;> cases h

theorem Rule.asksOnce_appliesTo (r : Rule) : AsksOnce (r.appliesTo · op) ctx := by
  cases hforeign : r.postgresOnly && !ctx.engine.isPostgres with
  | true =>
    have hnot (t : Thresholds) : r.appliesTo (ctx.withThresholds t) op = .ok false := by
      rw [Rule.appliesTo]
      exact if_pos hforeign
    refine .inl ⟨fun t => (hnot t).trans (hnot ctx.thresholds).symm, fun u hu => ?_⟩
    cases (hnot ctx.thresholds).symm.trans hu
  | false =>
    have hasks (t : Thresholds) : r.appliesTo (ctx.withThresholds t) op =
        r.condition.holds (ctx.withThresholds t) op := by
      rw [Rule.appliesTo]
      exact if_neg (by simp only [Context.withThresholds, hforeign, Bool.false_eq_true,
        not_false_iff])
    have hown : r.appliesTo ctx op = r.condition.holds ctx op := hasks ctx.thresholds
    simp only [AsksOnce, hasks, hown]
    exact r.condition.asksOnce_holds

/-! ## The features that are asked for -/

/-- A rule that cannot tell as long as there are no thresholds. -/
theorem Rule.Queries.of_column {i : Nat} (hi : i < columnRules.length) (kind : EngineKind)
    (op : Operation) (hkind : op.kind ∈ columnRules[i].kinds) {u : UnknownBehavior}
    (hu : columnRules[i].appliesTo ⟨Engine.ofKind kind, false, []⟩ op =
      .error (.unknownBehavior u)) : Queries u.feature := by
  have hrule : columnRules[i] ∈ table := by
    simp only [table, List.mem_append, List.getElem_mem, true_or]
  exact ⟨_, hrule, _, op, u, hkind, hu, rfl⟩

/-- The rule about changes of type asks for what a change between two types needs. -/
theorem Rule.Queries.of_requirement (kind : EngineKind) {a b : String} {old new : ColumnType}
    (ha : ColumnType.parse a = .ok old) (hb : ColumnType.parse b = .ok new) {feature : String}
    (h : TypeChange.requirement (Engine.ofKind kind) old new = .feature feature) :
    Queries feature := by
  have hold : ColumnType.ofValue (.text a) = .ok old := by rw [ColumnType.ofValue, ha]; rfl
  have hnew : ColumnType.ofValue (.text b) = .ok new := by rw [ColumnType.ofValue, hb]; rfl
  refine of_column (i := 7) (by decide) kind (.alterColumnType .null .null (.text a) (.text b))
    (.head _) (u := ⟨feature, kind, false⟩) ?_
  show typeKeepsTable ⟨Engine.ofKind kind, false, []⟩ (.text a) (.text b) = _
  rw [typeKeepsTable_eq hold hnew, h]
  rfl

theorem Rule.queries_of_mem {feature : String} (h : feature ∈ queriedFeatures) :
    Queries feature := by
  simp only [queriedFeatures, List.mem_cons, List.not_mem_nil, or_false] at h
  rcases h with rfl | rfl | rfl | rfl | rfl | rfl
  · exact .of_column (i := 3) (by decide) .postgres
      (.addColumnWithDefault .null .null .null .null false) (by decide) rfl
  · exact .of_column (i := 14) (by decide) .postgres (.setNotNull .null .null true)
      (by decide) rfl
  · have hcidr : ColumnType.parse "cidr" = .ok ⟨"cidr", []⟩ := rfl
    have hinet : ColumnType.parse "inet" = .ok ⟨"inet", []⟩ := rfl
    exact .of_requirement .postgres hcidr hinet (by decide)
  · have hlimited : ColumnType.parse "decimal(4)" = .ok ⟨"decimal", [4]⟩ := rfl
    have hunlimited : ColumnType.parse "decimal" = .ok ⟨"decimal", []⟩ := rfl
    exact .of_requirement .postgres hlimited hunlimited (by decide)
  · have hplain : ColumnType.parse "timestamp" = .ok ⟨"timestamp", []⟩ := rfl
    have hzoned : ColumnType.parse "timestamptz" = .ok ⟨"timestamptz", []⟩ := rfl
    have hupper : Engine.defaultTimeZone.map Char.toUpper = "UTC" := by
      rw [← String.toList_inj, String.toList_map]
      rfl
    have hwidens : TypeChange.Widens Engine.defaultTimeZone ⟨"timestamp", []⟩ ⟨"timestamptz", []⟩
        TypeChange.timestampConversion :=
      ⟨by decide, fun _ => hupper ▸ List.mem_cons_self, fun _ _ => .unlimited _,
        fun h => absurd h (by decide)⟩
    exact .of_requirement .postgres hplain hzoned
      (TypeChange.onPostgres_of_widens (by decide) hwidens)
  · have hshort : ColumnType.parse "varchar(40)" = .ok ⟨"varchar", [40]⟩ := rfl
    have hlong : ColumnType.parse "varchar(60)" = .ok ⟨"varchar", [60]⟩ := rfl
    exact .of_requirement .mysql hshort hlong (by decide)

/-- The features that rules ask for are those that are listed. -/
theorem Rule.queries_iff {feature : String} : Queries feature ↔ feature ∈ queriedFeatures := by
  constructor
  · rintro ⟨r, -, ctx, op, u, -, hu, rfl⟩
    have hasks : AsksOnce (r.appliesTo · op) ctx := r.asksOnce_appliesTo
    exact hasks.mem_of_eq_unknown hu
  · exact Rule.queries_of_mem

instance : DecidablePred Rule.Queries :=
  fun feature => decidable_of_iff (feature ∈ Rule.queriedFeatures) Rule.queries_iff.symm

/-! ## Verdicts -/

/-- The first rule that applies is the same under thresholds with the same answers. -/
theorem Rule.first?_withThresholds {t : Thresholds}
    (h : ∀ feature ∈ Rule.queriedFeatures,
      t.find? feature ctx.engine.kind = ctx.thresholds.find? feature ctx.engine.kind)
    (rs : List Rule) : Rule.first? (ctx.withThresholds t) op rs = Rule.first? ctx op rs := by
  induction rs with
  | nil => rfl
  | cons r rs ih => rw [first?_cons, first?_cons, ih, r.asksOnce_appliesTo.eq_withThresholds h]

/-- The verdict about an operation, with all that is logged about it, hangs on the thresholds of the
features that rules ask for and of the kind of the engine. -/
theorem classify_withThresholds (ctx : Context) (kb : KnowledgeBase) {t : Thresholds}
    (h : ∀ feature ∈ Rule.queriedFeatures,
      t.find? feature ctx.engine.kind = ctx.thresholds.find? feature ctx.engine.kind) :
    classify Rule.table (ctx.withThresholds t) kb op = classify Rule.table ctx kb op := by
  have hruling : Ruling.of Rule.table (ctx.withThresholds t) kb op =
      Ruling.of Rule.table ctx kb op := by
    rw [Ruling.of, Rule.first?_withThresholds h]
    rfl
  rw [classify, hruling, classify]

end MigrationSafety
