import MigrationSafety.Operation.Describe
import MigrationSafety.Threshold
import MigrationSafety.Verdict

/-!
# Safety rules

A rule names the kinds of operations and the engines that it is about, a condition, and what is
said about an operation that meets it.

* `Context.supports`: whether the engine has a feature;
* `Condition.holds`: whether an operation meets a condition;
* `Rule.verdict`: what a rule says about an operation.
-/

namespace MigrationSafety

/-- What a rule may look at besides the operation. -/
structure Context where
  engine : Engine
  /-- Whether the migration runs outside a transaction. -/
  noTransaction : Bool
  thresholds : Thresholds

namespace Context

/-- Whether the engine has a feature. It cannot be told without a threshold for the engine, or
without the version of the engine. -/
def supports (ctx : Context) (feature : String) : Except UnknownBehavior Bool :=
  match ctx.thresholds.find? feature ctx.engine.kind with
  | none => .error ⟨feature, ctx.engine.kind, false⟩
  | some threshold =>
    match ctx.engine.version with
    | none => .error ⟨feature, ctx.engine.kind, true⟩
    | some version => .ok (version.atLeast threshold)

/-- The same as a step of something that may stop. -/
def supportsFeature (ctx : Context) (feature : String) : Outcome Bool :=
  (ctx.supports feature).mapError .unknownBehavior

end Context

/-- What a rule asks of an operation. -/
inductive Condition where
  | always
  /-- The new column is of the plain JSON type. -/
  | plainJson
  /-- The default differs from row to row. -/
  | defaultVaries
  /-- The engine writes a default into every row. -/
  | defaultRewrites
  /-- The change of type keeps the table. -/
  | typeKeepsTable
  /-- The statement redefines the type together with the default. -/
  | redefinesType
  /-- The constraint is not validated at first. -/
  | notValidated
  /-- The engine trusts a validated check. -/
  | checkTrusted
  /-- A table of the same name is dropped first. -/
  | dropsTable
  | concurrently
  | concurrentlyInTransaction
  | concurrentlyOutsideTransaction
  /-- The constraint is put on an index that exists. -/
  | onExistingIndex
  deriving DecidableEq, Repr

/-- Reads the type of a column, which should be a text. -/
def ColumnType.ofValue : Value → Outcome ColumnType
  | .text s => (ColumnType.parse s).mapError .value
  | v => .error (.shape (.noMember v "strip"))

/-- Whether a change of type keeps the table on the engine of a context. -/
def typeKeepsTable (ctx : Context) (fromType toType : Value) : Outcome Bool := do
  let old ← ColumnType.ofValue fromType
  let new ← ColumnType.ofValue toType
  match TypeChange.requirement ctx.engine old new with
  | .never => .ok false
  | .always => .ok true
  | .feature name => ctx.supportsFeature name

/-- Whether an operation meets a condition. A condition that makes no sense for the kind of an
operation is not met. -/
def Condition.holds (ctx : Context) (op : Operation) : Condition → Outcome Bool
  | .always => .ok true
  | .plainJson =>
    match op with
    | .addColumn _ _ t | .addColumnWithDefault _ _ t _ _ => (ColumnType.ofValue t).map (·.isJson)
    | _ => .ok false
  | .defaultVaries =>
    match op with
    | .addColumnWithDefault _ _ _ default volatileDefault =>
      Operation.hasVolatileDefault default volatileDefault
    | _ => .ok false
  | .defaultRewrites => (ctx.supportsFeature fastColumnDefault).map (!·)
  | .typeKeepsTable =>
    match op with
    | .alterColumnType _ _ fromType toType => MigrationSafety.typeKeepsTable ctx fromType toType
    | _ => .ok false
  | .redefinesType => .ok op.redefinesType
  | .notValidated =>
    match op with
    | .setNotNull _ _ validate | .addForeignKey _ _ _ _ validate
    | .addCheckConstraint _ _ _ validate => .ok !validate
    | _ => .ok false
  | .checkTrusted => ctx.supportsFeature notNullFromCheck
  | .dropsTable =>
    match op with
    | .createTable _ force => .ok force
    | _ => .ok false
  | .concurrently => .ok op.concurrently
  | .concurrentlyInTransaction => .ok (op.concurrently && !ctx.noTransaction)
  | .concurrentlyOutsideTransaction => .ok (op.concurrently && ctx.noTransaction)
  | .onExistingIndex =>
    match op with
    | .addUniqueConstraint _ _ _ usingIndex => .ok usingIndex.truthy
    | _ => .ok false

/-- A piece of a rationale: words, the engine, or a field of the operation. -/
inductive Piece where
  | words (s : String)
  | engine
  | field (name : String)
  deriving DecidableEq, Repr

instance : Coe String Piece := ⟨.words⟩

/-- A piece of a rationale, written out. -/
def Piece.fill (engine : String) (fields : List (String × String)) : Piece → Outcome String
  | .words s => .ok s
  | .engine => .ok engine
  | .field name =>
    match fields.lookup name with
    | some text => .ok text
    | none => .error (.shape (.noField name))

/-- A safety rule. -/
structure Rule where
  id : String
  kinds : List Operation.Kind
  status : Status
  rationale : List Piece
  remedy : Remedy := .nothing
  postgresOnly : Bool := false
  condition : Condition := .always
  deriving DecidableEq

namespace Rule

/-- Whether a rule applies to an operation of one of its kinds. -/
def appliesTo (r : Rule) (ctx : Context) (op : Operation) : Outcome Bool :=
  if r.postgresOnly && !ctx.engine.isPostgres then .ok false else r.condition.holds ctx op

/-- The rationale of a rule for an operation. -/
def explain (r : Rule) (ctx : Context) (op : Operation) : Outcome String := do
  let fields ← op.displayFields
  let pieces ← r.rationale.mapM (Piece.fill ctx.engine.label fields)
  .ok (String.join pieces)

/-- What a rule says about an operation. -/
def verdict (r : Rule) (ctx : Context) (lock : Option Lock) (op : Operation) :
    Outcome Verdict := do
  let rationale ← r.explain ctx op
  .ok ⟨r.status, rationale, r.remedy, lock, r.id, false⟩

end Rule

end MigrationSafety
