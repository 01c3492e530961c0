import MigrationSafety.Engine.Kind
import MigrationSafety.Failure

/-!
# What locks operations take

* `KnowledgeBase.locksFor`: the locks that a kind of operation takes on an engine, the most
  exclusive one for kinds that are not known;
* `Lock.strongest?`: the lock that stands for several;
* `Lock.conflicts`, `Lock.blocksReads`, `Lock.blocksWrites`: what a lock does to others.
-/

namespace MigrationSafety

/-- What is known about the locks that operations take. Kinds of operations go by name, so that
more kinds can be described than the library has. -/
structure KnowledgeBase where
  /-- The Postgres locks of a kind, built or dropped concurrently or not. -/
  postgres : List ((String × Bool) × List Lock)
  /-- What a kind does to writers on the MySQL family. -/
  mysql : List (String × Lock)

/-- The Postgres locks of the known kinds. A foreign key locks both of its tables; a raw statement
may do anything. -/
def defaultPostgresLocks : List ((String × Bool) × List Lock) :=
  [(("AddColumn", false), [.mode .accessExclusive]),
    (("AddColumnWithDefault", false), [.mode .accessExclusive]),
    (("AddJsonColumn", false), [.mode .accessExclusive]),
    (("AlterColumnType", false), [.mode .accessExclusive]),
    (("AlterColumnDefault", false), [.mode .accessExclusive]),
    (("RemoveColumn", false), [.mode .accessExclusive]),
    (("RenameColumn", false), [.mode .accessExclusive]),
    (("SetNotNull", false), [.mode .accessExclusive]),
    (("CreateTable", false), [.mode .accessExclusive]),
    (("RenameTable", false), [.mode .accessExclusive]),
    (("CreateIndex", false), [.mode .share]),
    (("CreateIndex", true), [.mode .shareUpdateExclusive]),
    (("RemoveIndex", false), [.mode .accessExclusive]),
    (("RemoveIndex", true), [.mode .shareUpdateExclusive]),
    (("AddForeignKey", false), [.mode .shareRowExclusive]),
    (("ValidateForeignKey", false), [.mode .shareUpdateExclusive, .mode .rowShare]),
    (("AddCheckConstraint", false), [.mode .accessExclusive]),
    (("ValidateCheckConstraint", false), [.mode .shareUpdateExclusive]),
    (("AddUniqueConstraint", false), [.mode .accessExclusive]),
    (("ExecuteSql", false), [.mode .accessExclusive])]

/-- What the known kinds do to writers on the MySQL family, whose engine changes most schemas
while the table stays in use. -/
def defaultMysqlLocks : List (String × Lock) :=
  [("AddColumn", .state .nonBlocking), ("AddColumnWithDefault", .state .nonBlocking),
    ("AddJsonColumn", .state .nonBlocking), ("AlterColumnType", .state .blocking),
    ("AlterColumnDefault", .state .nonBlocking), ("RemoveColumn", .state .nonBlocking),
    ("RenameColumn", .state .nonBlocking), ("SetNotNull", .state .blocking),
    ("CreateTable", .state .nonBlocking), ("RenameTable", .state .nonBlocking),
    ("CreateIndex", .state .nonBlocking), ("RemoveIndex", .state .nonBlocking),
    ("AddForeignKey", .state .blocking), ("ValidateForeignKey", .state .nonBlocking),
    ("AddCheckConstraint", .state .blocking), ("ValidateCheckConstraint", .state .nonBlocking),
    ("AddUniqueConstraint", .state .nonBlocking), ("ExecuteSql", .state .blocking)]

namespace KnowledgeBase

/-- The built-in knowledge. -/
def builtIn : KnowledgeBase :=
  ⟨defaultPostgresLocks, defaultMysqlLocks⟩

/-- The locks that a kind of operation takes, each once. -/
def locksFor (kb : KnowledgeBase) (kind : String) (engine : EngineKind) (concurrently : Bool) :
    List Lock :=
  match engine with
  | .postgres =>
    let found := (kb.postgres.lookup (kind, concurrently)).or (kb.postgres.lookup (kind, false))
    (found.getD [.mode .accessExclusive]).eraseDups
  | .mysql | .mariadb => [(kb.mysql.lookup kind).getD (.state .blocking)]

end KnowledgeBase

namespace Lock

/-- Whether a lock is a mode of Postgres. -/
def isMode : Lock → Bool
  | .mode _ => true
  | .state _ => false

/-- Whether a lock blocks a request for another one. Locks of different families do not
compare. -/
def conflicts : Lock → Lock → Outcome Bool
  | .mode a, .mode b => .ok (a.conflicts b)
  | .state a, .state b => .ok (a == .blocking || b == .blocking)
  | a, b => .error (.differentFamilies a b)

/-- The stronger of two modes, the first one if they are equally strong. -/
def strongerMode : Lock → Lock → Lock
  | .mode a, .mode b => if a.strength < b.strength then .mode b else .mode a
  | a, _ => a

/-- The lock that stands for all of a list: the strongest mode, or the state that blocks writers
if it is among them. -/
def strongest? : List Lock → Option Lock
  | [] => none
  | lock :: locks =>
    if (lock :: locks).all isMode then some (locks.foldl strongerMode lock)
    else if (lock :: locks).contains (.state .blocking) then some (.state .blocking)
    else some lock

/-- Whether a lock blocks readers. -/
def blocksReads : Lock → Bool
  | .mode m => m.conflicts .accessShare
  | .state _ => false

/-- Whether a lock blocks writers. -/
def blocksWrites : Lock → Bool
  | .mode m => m.conflicts .rowExclusive
  | .state b => b == .blocking

end Lock

end MigrationSafety
