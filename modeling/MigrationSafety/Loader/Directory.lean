import MigrationSafety.Loader.FileTree
import MigrationSafety.Migration
import MigrationSafety.Trace

/-!
# Directories of migration files

The name of a migration file starts with a number and an underscore. The files of a directory are
imported in the order of their names and applied in the order of their numbers.

* `migrationName?`: the number and the name of a migration, from the name of its file;
* `loadDirectory`: the plan in a directory.
-/

namespace MigrationSafety

/-- A number, and something that has it. -/
structure Numbered (α : Type) where
  number : Nat
  name : String
  item : α

/-- The ending of migration files. -/
def scriptEnding : String := ".py"

/-- The number and the name of a migration, from the name of its file: digits of any script, an
underscore, and at least one more character, none of them the end of a line, before the
ending. -/
def migrationName? (file : String) : Option (Nat × String) :=
  let cs := file.toList
  let digits := cs.takeWhile Text.isDigit
  let stem := cs.take (cs.length - scriptEnding.length)
  let rest := stem.drop (digits.length + 1)
  if !digits.isEmpty && cs[digits.length]? == some '_' && cs.drop stem.length == scriptEnding.toList
      && !rest.isEmpty && !rest.contains '\n' then
    some (Text.ofDigits (digits.filterMap Text.digitValue?), String.ofList stem)
  else none

/-- The operations that a migration file defines. What goes wrong while they are built is a fault
of the import, unless an operation itself is malformed. -/
def DeclaredOperations.read (file path : String) (migration : Value) :
    DeclaredOperations → Outcome (List Operation)
  | .built written =>
    match written.mapM Operation.ofValue with
    | .ok ops => .ok ops
    | .error (.operation fault) => .error (.operation fault)
    | .error failure => .error (.loading path (.notImported file failure.message))
  | .stored v =>
    match v.items with
    | .error fault => .error (.shape fault)
    | .ok [] => .ok []
    | .ok (item :: _) => .error (.operation (.notAnOperation migration item))

/-- Imports a migration file; `none` if it defines no migration. -/
def importScript (path : Path) (file name : String) : FileTree → Traced (Option Migration)
  | .script (.raises why) =>
    Traced.ofOutcome (.error (.loading (path.child file).display (.notImported file why)))
  | .script (.migration operations settings) => do
    let ops ← operations.read file (path.child file).display (.text name)
    let m ← (Migration.assemble (.text name) ops (Migration.flagsOf settings)).mapError
      Failure.operation
    pure (some m)
  | .script .nothing | .document _ => do
    Traced.say .debug s!"Skipping {file}: no Migration subclass named M"
    pure none
  | .directory _ => pure none

/-- Imports an entry of a directory, if it is a migration file. -/
def importEntry (path : Path) : String × FileTree → Traced (Option (Numbered Migration))
  | (_, .directory _) => pure none
  | (file, tree) =>
    match migrationName? file with
    | none => pure none
    | some (number, name) => do
      let m ← importScript path file name tree
      pure (m.map fun m => ⟨number, name, m⟩)

/-- Whether one migration runs no later than another one: by number, then by name. -/
def Numbered.notAfter {α : Type} (a b : Numbered α) : Bool :=
  a.number < b.number || (a.number == b.number && !decide (b.name < a.name))

/-- The plan in a directory with the given entries. -/
def loadEntries (path : Path) (entries : List (String × FileTree)) : Traced Plan := do
  let sorted := entries.mergeSort fun a b => !decide (b.1 < a.1)
  let imported ← Traced.forEach (importEntry path) sorted
  let numbered := (imported.filterMap id).mergeSort Numbered.notAfter
  Traced.say .debug s!"Loaded {numbered.length} migration(s) from {path.display}"
  pure ⟨numbered.map (·.item)⟩

/-- The plan in a directory; one that is not there holds no migrations. -/
def loadDirectory (disk : Disk) (path : Path) : Traced Plan :=
  match disk.entries? path with
  | some entries => loadEntries path entries
  | none => pure ⟨[]⟩

end MigrationSafety
