import MigrationSafety.Failure
import MigrationSafety.Loader.Path

/-!
# Files and directories

The part of a file system that a plan is read from, as a value.

* `Script`: a migration file, as what it defines when it is imported;
* `FileTree.insert`: a tree with one more file or directory;
* `FileTree.walk`: what stands at the end of some names;
* `Disk.find`: what stands at a path.
-/

namespace MigrationSafety

/-- The operations that a migration file defines: in written form, to be built while the file is
imported, or a value stored as it is. -/
inductive DeclaredOperations where
  | built (written : List Value)
  | stored (v : Value)

/-- A migration file, as what happens when it is imported. -/
inductive Script where
  | raises (why : String)
  /-- The file defines no migration. -/
  | nothing
  | migration (operations : DeclaredOperations) (settings : List (String × Value))

/-- A file or a directory. -/
inductive FileTree where
  | document (bytes : ByteArray)
  | script (s : Script)
  | directory (entries : List (String × FileTree))

namespace FileTree

/-- A directory with nothing in it. -/
def empty : FileTree := .directory []

/-- Whether something is a directory. -/
def isDirectory : FileTree → Bool
  | .directory _ => true
  | _ => false

/-- A tree with a file or directory put at the end of some names. Directories on the way are made,
and one that is there already stays as it is. -/
def insert : FileTree → List String → FileTree → FileTree
  | .directory entries, [], .directory [] => .directory entries
  | _, [], leaf => leaf
  | .directory entries, name :: rest, leaf =>
    .directory (assign name (insert ((entries.lookup name).getD empty) rest leaf) entries)
  | tree, _ :: _, _ => tree

/-- What stands at the end of some names, starting in the directory `here` below the directories
`above`. Nothing is known of what lies further up. -/
def walk (above : List FileTree) (here : FileTree) : List String → Except ReadFault FileTree
  | [] => .ok here
  | name :: rest =>
    match here with
    | .directory entries =>
      if name == ".." then
        match above with
        | [] => walk [] empty rest
        | up :: above => walk above up rest
      else
        match entries.lookup name with
        | none => .error .missing
        | some child => walk (here :: above) child rest
    | _ => .error .notADirectory

end FileTree

/-- A file system, as what stands at each path. -/
structure Disk where
  find : Path → Except ReadFault FileTree

namespace Disk

/-- A file system whose current directory is a tree, and about which nothing else is known. -/
def ofTree (tree : FileTree) : Disk :=
  ⟨fun p => FileTree.walk [] (if p.isRelative then tree else .empty) p.parts⟩

/-- A file system of which one path is known. -/
def single (found : Except ReadFault FileTree) : Disk :=
  ⟨fun _ => found⟩

/-- The entries of the directory at a path, if one is there. -/
def entries? (d : Disk) (p : Path) : Option (List (String × FileTree)) :=
  match d.find p with
  | .ok (.directory entries) => some entries
  | _ => none

end Disk

end MigrationSafety
