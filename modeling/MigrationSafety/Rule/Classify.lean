import MigrationSafety.Lock.KnowledgeBase
import MigrationSafety.Rule.Table
import MigrationSafety.Trace

/-!
# Judging one operation

The first rule about its kind that applies decides about an operation, whatever else is in the
plan. Where a rule cannot tell because the behaviour of the engine is not known, the operation is
conditionally safe.

* `Rule.first?`: the rule that decides;
* `Ruling.of`: the verdict, and how the log words the reason;
* `classify`: the verdict, logged.
-/

namespace MigrationSafety

/-- The first rule that applies. -/
def Rule.first? (ctx : Context) (op : Operation) : List Rule → Outcome (Option Rule)
  | [] => .ok none
  | r :: rs => do
    if ← r.appliesTo ctx op then .ok (some r) else Rule.first? ctx op rs

/-- The rule of operations about which the engine's behaviour is not known. -/
def unknownBehaviorRule : String := "unknown-engine-behavior"

/-- The strongest lock that an operation takes. -/
def lockFor (kb : KnowledgeBase) (engine : Engine) (op : Operation) : Option Lock :=
  Lock.strongest? (kb.locksFor op.kind.name engine.kind op.concurrently)

/-- A verdict and how the log words the reason for it. -/
structure Ruling where
  verdict : Verdict
  note : String

namespace Ruling

/-- The ruling where the behaviour of the engine is not known. -/
def unknown (u : UnknownBehavior) (lock : Option Lock) : Ruling :=
  ⟨⟨.conditionallySafe, s!"unknown engine behavior: {u.message}", .nothing, lock,
    unknownBehaviorRule, false⟩, u.message⟩

/-- The ruling of a rule. -/
def ofRule (r : Rule) (ctx : Context) (lock : Option Lock) (op : Operation) : Outcome Ruling := do
  let verdict ← r.verdict ctx lock op
  .ok ⟨verdict, s!"{verdict.status.name} ({r.id})"⟩

/-- The ruling of a list of rules. -/
def of (rules : List Rule) (ctx : Context) (kb : KnowledgeBase) (op : Operation) :
    Outcome Ruling :=
  let lock := lockFor kb ctx.engine op
  match Rule.first? ctx op (Rule.forKind rules op.kind) with
  | .error (.unknownBehavior u) => .ok (unknown u lock)
  | .error failure => .error failure
  | .ok none => .error (.uncovered op.kind)
  | .ok (some r) => ofRule r ctx lock op

end Ruling

/-- The verdict of a list of rules about an operation. -/
def classify (rules : List Rule) (ctx : Context) (kb : KnowledgeBase) (op : Operation) :
    Traced Verdict := do
  let ruling ← Ruling.of rules ctx kb op
  let description ← op.describe
  Traced.say .debug s!"{description}: {ruling.note}"
  pure ruling.verdict

end MigrationSafety
