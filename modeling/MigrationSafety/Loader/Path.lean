import MigrationSafety.Text.Split

/-!
# Paths

A path is what it starts from and the names on the way. Empty names and single points lead nowhere
and are left out.

* `Path.parse`, `Path.display`: paths as text;
* `Path.suffix`: the ending of the last name, with its point.
-/

namespace MigrationSafety

/-- A path in a file system. -/
structure Path where
  /-- Empty for a path that starts from the current directory, slashes for one that does not. -/
  root : String
  parts : List String
  deriving DecidableEq, Repr

namespace Path

/-- What a path starts from. Exactly two slashes are kept; any other number counts as one. -/
def rootOf (cs : List Char) : String :=
  match (cs.takeWhile (· == '/')).length with
  | 0 => ""
  | 2 => "//"
  | _ => "/"

/-- Reads a path. -/
def parse (s : String) : Path :=
  let names := (Text.splitAtEach '/' s.toList).map String.ofList
  ⟨rootOf s.toList, names.filter fun name => name != "" && name != "."⟩

/-- A path as messages write it. -/
def display (p : Path) : String :=
  if p.parts.isEmpty && p.root == "" then "." else p.root ++ "/".intercalate p.parts

/-- The last name of a path. -/
def name (p : Path) : String :=
  p.parts.getLast?.getD ""

/-- A path with one more name. -/
def child (p : Path) (name : String) : Path :=
  { p with parts := p.parts ++ [name] }

/-- The ending of the last name: its last point and what follows it, unless the name starts or
ends there. -/
def suffix (p : Path) : String :=
  let cs := p.name.toList
  let ending := (cs.reverse.takeWhile (· != '.')).reverse
  if ending.isEmpty || cs.length ≤ ending.length + 1 then ""
  else String.ofList ('.' :: ending)

/-- Whether a path starts from the current directory. -/
def isRelative (p : Path) : Bool :=
  p.root == ""

end Path

end MigrationSafety
