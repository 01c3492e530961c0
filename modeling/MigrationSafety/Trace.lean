import MigrationSafety.Failure

/-!
# Traced computations

An analysis says what it does while it runs, and what it said before it stopped stays said. A
traced computation is its log together with its result.

* `Traced.outcome_bind`, `Traced.log_bind`: one computation after another;
* `Traced.forEach`: one computation for every item of a list.
-/

namespace MigrationSafety

/-- How much a line of the log matters. -/
inductive LogLevel where
  | debug
  | info
  deriving DecidableEq, Repr

/-- The name of a level. -/
def LogLevel.name : LogLevel → String
  | .debug => "DEBUG"
  | .info => "INFO"

/-- A line of the log. -/
structure LogLine where
  level : LogLevel
  text : String
  deriving DecidableEq, Repr

/-- A line of the log as it is written. -/
def LogLine.display (line : LogLine) : String :=
  s!"{line.level.name} migrationguard: {line.text}"

/-- A result and the log of how it came about. -/
structure Traced (α : Type) where
  log : List LogLine
  outcome : Outcome α

namespace Traced

variable {α β : Type}

/-- A result without a log. -/
def ofOutcome (outcome : Outcome α) : Traced α :=
  ⟨[], outcome⟩

/-- A log without a result. -/
def say (level : LogLevel) (text : String) : Traced Unit :=
  ⟨[⟨level, text⟩], .ok ()⟩

/-- One computation after another. The second one runs only if the first one has a result. -/
def andThen (x : Traced α) (f : α → Traced β) : Traced β :=
  match x.outcome with
  | .error failure => ⟨x.log, .error failure⟩
  | .ok a => ⟨x.log ++ (f a).log, (f a).outcome⟩

instance : Monad Traced where
  pure a := ofOutcome (.ok a)
  bind := andThen

instance : MonadLift (Except Failure) Traced where
  monadLift := ofOutcome

/-- One computation for every item of a list, in order. -/
def forEach (f : α → Traced β) : List α → Traced (List β)
  | [] => pure []
  | a :: as => do
    let b ← f a
    let bs ← forEach f as
    pure (b :: bs)

@[simp] theorem outcome_pure (a : α) : (pure a : Traced α).outcome = .ok a := rfl

@[simp] theorem outcome_ofOutcome (o : Outcome α) : (ofOutcome o).outcome = o := rfl

@[simp] theorem outcome_say (level : LogLevel) (text : String) :
    (say level text).outcome = .ok () := rfl

@[simp] theorem outcome_bind (x : Traced α) (f : α → Traced β) :
    (x >>= f).outcome = x.outcome.bind fun a => (f a).outcome := by
  change (andThen x f).outcome = _
  unfold andThen
  cases x.outcome <;> rfl

@[simp] theorem log_bind_of_ok {x : Traced α} {a : α} (h : x.outcome = .ok a)
    (f : α → Traced β) : (x >>= f).log = x.log ++ (f a).log := by
  change (andThen x f).log = _
  simp [andThen, h]

end Traced

end MigrationSafety
