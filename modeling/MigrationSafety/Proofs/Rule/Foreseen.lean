import MigrationSafety.Proofs.ColumnType.Readable
import MigrationSafety.Proofs.Rule.Version

/-!
# When the rules have a verdict

The conditions of the rules read the fields of an operation and the types of its columns. Where the
fields have their types and the column types can be read, the rules stop only where it is not known
how the engine behaves, and that is a verdict too. A type with a number of too many digits cannot be
read, and where the rules ask for it there is no verdict.

* `Operation.hasReadableTypes`: whether the column types of an operation can be read;
* `Rule.foreseen_first?`: the rules stop only where the engine is not known well enough;
* `classify_total`, `not_classified_of_unread`: when there is a verdict and when there is none.
-/

namespace MigrationSafety

namespace Operation

/-- The written column types that the rules read. -/
def columnTypes : Operation → List Value
  | addColumn _ _ columnType | addColumnWithDefault _ _ columnType _ _ => [columnType]
  | alterColumnType _ _ fromType toType => [fromType, toType]
  | _ => []

/-- Whether no number in the column types of an operation has too many digits. -/
def hasReadableTypes (op : Operation) : Bool :=
  op.columnTypes.all fun v => ColumnType.isReadable v.display

theorem isReadable_of_mem {op : Operation} (h : op.hasReadableTypes = true) {s : String}
    (hs : .text s ∈ op.columnTypes) : ColumnType.isReadable s = true := by
  have hread := List.all_eq_true.mp h (.text s) hs
  rwa [Value.display_text] at hread

end Operation

/-- A column type in a field of an operation can be read. -/
theorem Operation.ofValue_total {op : Operation} (hread : op.hasReadableTypes = true)
    {name : String} {v : Value} (hv : (Field.required name).admits v = true)
    (hmem : v ∈ op.columnTypes) : ∃ t, ColumnType.ofValue v = .ok t := by
  obtain ⟨s, rfl⟩ := (Operation.admits_required name v).mp hv
  obtain ⟨t, ht⟩ := ColumnType.isReadable_iff.mp (Operation.isReadable_of_mem hread hmem)
  rw [ColumnType.ofValue, ht]
  exact ⟨t, rfl⟩

/-- A computation that stops only where it is not known how the engine behaves. -/
def Foreseen {α : Type} (x : Outcome α) : Prop :=
  ∀ failure, x = .error failure → ∃ u, failure = .unknownBehavior u

namespace Foreseen

variable {α β : Type}

theorem ok (a : α) : Foreseen (.ok a : Outcome α) := nofun

theorem of_exists {x : Outcome α} (h : ∃ a, x = .ok a) : Foreseen x := by
  obtain ⟨a, rfl⟩ := h
  exact .ok a

theorem bind {x : Outcome α} {f : α → Outcome β} (hx : Foreseen x)
    (hf : ∀ a, x = .ok a → Foreseen (f a)) : Foreseen (x.bind f) := by
  cases x with
  | error failure =>
    obtain ⟨u, rfl⟩ := hx failure rfl
    intro failure' h
    cases h
    exact ⟨u, rfl⟩
  | ok a => exact hf a rfl

theorem map {x : Outcome α} (hx : Foreseen x) (f : α → β) : Foreseen (x.map f) := by
  cases x with
  | error failure =>
    obtain ⟨u, rfl⟩ := hx failure rfl
    intro failure' h
    cases h
    exact ⟨u, rfl⟩
  | ok a => exact .ok (f a)

theorem supportsFeature (ctx : Context) (feature : String) :
    Foreseen (ctx.supportsFeature feature) := by
  intro failure h
  rw [Context.supportsFeature] at h
  cases hs : ctx.supports feature with
  | error u =>
    rw [hs] at h
    cases h
    exact ⟨u, rfl⟩
  | ok b =>
    rw [hs] at h
    cases h

end Foreseen

section
variable {ctx : Context} {op : Operation}

theorem foreseen_typeKeepsTable {fromType toType : Value}
    (hfrom : ∃ t, ColumnType.ofValue fromType = .ok t)
    (hto : ∃ t, ColumnType.ofValue toType = .ok t) :
    Foreseen (typeKeepsTable ctx fromType toType) := by
  obtain ⟨old, hold⟩ := hfrom
  obtain ⟨new, hnew⟩ := hto
  rw [typeKeepsTable_eq hold hnew]
  cases TypeChange.requirement ctx.engine old new with
  | never => exact .ok false
  | always => exact .ok true
  | feature name => exact .supportsFeature ctx name

/-- A condition on a typed operation whose column types can be read. -/
theorem Condition.foreseen_holds (hop : op.isTyped = true) (hread : op.hasReadableTypes = true)
    (c : Condition) : Foreseen (c.holds ctx op) := by
  cases c
  case plainJson =>
    cases op
    case addColumn =>
      have htype := Operation.admits_of_isTyped hop (.tail _ (.tail _ (.head _)))
      exact (Foreseen.of_exists (Operation.ofValue_total hread htype (.head _))).map _
    case addColumnWithDefault =>
      have htype := Operation.admits_of_isTyped hop (.tail _ (.tail _ (.head _)))
      exact (Foreseen.of_exists (Operation.ofValue_total hread htype (.head _))).map _
    all_goals exact .ok false
  case defaultVaries =>
    cases op
    case addColumnWithDefault table column columnType default volatileDefault =>
      obtain ⟨s, rfl⟩ := (Operation.admits_required _ default).mp
        (Operation.admits_of_isTyped hop (.tail _ (.tail _ (.tail _ (.head _)))))
      cases volatileDefault <;> exact .ok _
    all_goals exact .ok false
  case defaultRewrites => exact (Foreseen.supportsFeature ctx fastColumnDefault).map _
  case checkTrusted => exact .supportsFeature ctx notNullFromCheck
  case typeKeepsTable =>
    cases op
    case alterColumnType =>
      have hfrom := Operation.admits_of_isTyped hop (.tail _ (.tail _ (.head _)))
      have hto := Operation.admits_of_isTyped hop (.tail _ (.tail _ (.tail _ (.head _))))
      exact foreseen_typeKeepsTable (Operation.ofValue_total hread hfrom (.head _))
        (Operation.ofValue_total hread hto (.tail _ (.head _)))
    all_goals exact .ok false
  all_goals
    cases op <;> exact .ok _

/-- The rules stop only where it is not known how the engine behaves. -/
theorem Rule.foreseen_first? (hop : op.isTyped = true) (hread : op.hasReadableTypes = true)
    (rs : List Rule) : Foreseen (Rule.first? ctx op rs) := by
  induction rs with
  | nil => exact .ok none
  | cons r rs ih =>
    have happlies : Foreseen (r.appliesTo ctx op) := by
      rw [Rule.appliesTo]
      split
      · exact .ok false
      · exact r.condition.foreseen_holds hop hread
    refine happlies.bind fun applies _ => ?_
    cases applies with
    | true => exact .ok (some r)
    | false => exact ih

/-- One of the rules decides, or it is not known how the engine behaves. -/
theorem Rule.first?_cases (ctx : Context) (hop : op.isTyped = true)
    (hread : op.hasReadableTypes = true) :
    (∃ u, Rule.first? ctx op (Rule.forKind Rule.table op.kind) = .error (.unknownBehavior u)) ∨
      ∃ r, Rule.first? ctx op (Rule.forKind Rule.table op.kind) = .ok (some r) := by
  cases hfirst : Rule.first? ctx op (Rule.forKind Rule.table op.kind) with
  | error failure =>
    obtain ⟨u, rfl⟩ := Rule.foreseen_first? hop hread _ failure hfirst
    exact .inl ⟨u, rfl⟩
  | ok found =>
    cases found with
    | none => exact absurd hfirst (Rule.first?_ne_none (Rule.exists_catch_all op.kind))
    | some r => exact .inr ⟨r, rfl⟩

/-- A typed operation whose column types can be read has a verdict. -/
theorem classify_total (ctx : Context) (kb : KnowledgeBase) (hop : op.isTyped = true)
    (hread : op.hasReadableTypes = true) :
    ∃ v, (classify Rule.table ctx kb op).outcome = .ok v := by
  rcases Rule.first?_cases ctx hop hread with ⟨u, hu⟩ | ⟨r, hr⟩
  · exact ⟨_, classify_of_unknown hop hu⟩
  · obtain ⟨rationale, hv⟩ := classify_of_first? kb hop hr
    exact ⟨_, hv⟩

end

/-- On Postgres there is no verdict about a new column whose type cannot be read. -/
theorem not_classified_of_unread {ctx : Context} {kb : KnowledgeBase} {table column : Value}
    {spec : String} (hpostgres : ctx.engine.isPostgres = true)
    (hunread : ColumnType.isReadable spec = false) (v : Verdict) :
    (classify Rule.table ctx kb (.addColumn table column (.text spec))).outcome ≠ .ok v := by
  intro hv
  have hrules : Rule.forKind Rule.table (.addColumn) = [Rule.columnRules[0], Rule.columnRules[1]] :=
    rfl
  cases hparse : ColumnType.parse spec with
  | ok t =>
    rw [ColumnType.isReadable_iff.mpr ⟨t, hparse⟩] at hunread
    cases hunread
  | error fault =>
    have hfirst : Rule.first? ctx (.addColumn table column (.text spec))
        (Rule.forKind Rule.table .addColumn) = .error (.value fault) := by
      rw [hrules, first?_cons, appliesTo_postgresOnly (r := Rule.columnRules[0]) rfl, hpostgres]
      show (((ColumnType.parse spec).mapError Failure.value).map ColumnType.isJson).bind _ = _
      rw [hparse]
      rfl
    obtain ⟨ruling, hruling, -⟩ := Traced.outcome_bind_eq_ok.mp hv
    rw [Traced.outcome_liftM, Ruling.of] at hruling
    simp only [Operation.kind, hfirst] at hruling
    cases hruling

end MigrationSafety
