import MigrationSafety.Json.Parser
import MigrationSafety.Loader.Directory

/-!
# Plans in JSON documents

* `Plan.ofDocument`: the plan that a value read from a document describes;
* `loadDocument`: the plan in a document;
* `load`: the plan at a path, be it a directory or a document.
-/

namespace MigrationSafety

/-- The bytes of the file at a path. A migration file is a text that is no JSON. -/
def Disk.read (d : Disk) (p : Path) : Except ReadFault ByteArray :=
  match d.find p with
  | .error fault => .error fault
  | .ok (.document bytes) => .ok bytes
  | .ok (.script _) => .ok "import".toUTF8
  | .ok (.directory _) => .error .directory

/-- The value that the bytes of a document write. -/
def readDocument (path : String) (bytes : ByteArray) : Outcome Value :=
  match String.fromUTF8? bytes with
  | none => .error .undecodable
  | some text =>
    match Json.parse text with
    | .ok v => .ok v
    | .error .malformed => .error (.loading path .notJson)
    | .error (.integerTooLong digits) => .error (.value (.tooLong digits))

/-- The migrations that a value holds: those of a record with the key `migrations`, or a list. -/
def migrationsOf? : Value → Option (List Value)
  | .list items => some items
  | .record fields =>
    match fields.lookup "migrations" with
    | some (.list items) => some items
    | _ => none
  | _ => none

/-- Whether a value is a record with a name. -/
def Value.isNamed (v : Value) : Bool :=
  (v.get? "name").isSome

/-- The plan that a value read from a document describes. -/
def Plan.ofDocument (path : String) (v : Value) : Outcome Plan :=
  match migrationsOf? v with
  | none => .error (.loading path .noMigrations)
  | some migrations =>
    match migrations.findIdx? (!·.isNamed) with
    | some index => .error (.loading path (.unnamed index))
    | none => Plan.ofValue (.record [("migrations", .list migrations)])

/-- The plan in a document. -/
def loadDocument (disk : Disk) (path : Path) : Outcome Plan := do
  let bytes ← (disk.read path).mapError fun fault => .loading path.display (.unreadable fault)
  let v ← readDocument path.display bytes
  Plan.ofDocument path.display v

/-- The plan at a path: a directory of migration files, or a document. -/
def load (disk : Disk) (path : Path) : Traced Plan :=
  match disk.entries? path with
  | some entries => loadEntries path entries
  | none =>
    if path.suffix == ".json" then Traced.ofOutcome (loadDocument disk path)
    else Traced.ofOutcome (.error (.loading path.display .unsupportedPath))

end MigrationSafety
