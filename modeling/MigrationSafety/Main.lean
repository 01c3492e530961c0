import MigrationSafety.CommandLine.Run

/-!
# The program

Reads the files that a command line names, carries the command line out, and prints what it
writes.
-/

namespace MigrationSafety

/-- What stands at a path of the file system: a directory with its files, or a file. Migration
files are not run, so they define nothing. -/
def readTree (path : String) : IO (Except ReadFault FileTree) := do
  let place := (← IO.currentDir) / path
  if ← place.isDir then
    let entries ← (← place.readDir).toList.mapM fun entry => do
      let leaf := if ← entry.path.isDir then FileTree.empty else .script .nothing
      pure (entry.fileName, leaf)
    pure (.ok (.directory entries))
  else if ← place.pathExists then pure (.ok (.document (← IO.FS.readBinFile place)))
  else pure (.error .missing)

/-- The file system as far as a command line needs it. -/
def diskFor (args : List String) : IO Disk := do
  match Command.read args with
  | .ok (_, .check request) => Disk.single <$> readTree (Path.parse request.path).display
  | _ => pure (Disk.single (.error .missing))

/-- The variables of the environment that hold settings. -/
def readEnvironment : IO (List (String × String)) := do
  let names := ["START_AFTER", "FAIL_ON"].map (variableStem ++ ·)
  names.filterMapM fun name => do
    pure ((← IO.getEnv name).map (name, ·))

end MigrationSafety

open MigrationSafety in
/-- Carries out the command line of the program. -/
def main (args : List String) : IO UInt32 := do
  match run (← diskFor args) (← readEnvironment) args with
  | .error e =>
    IO.eprintln e.message
    pure 2
  | .ok (.error failure) =>
    IO.eprintln failure.message
    pure 1
  | .ok (.ok result) =>
    IO.eprint result.errors
    IO.print result.output
    pure result.exit.number.toUInt32
