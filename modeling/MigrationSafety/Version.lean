import MigrationSafety.Failure
import MigrationSafety.Text.Split

/-!
# Versions

A version is a non-empty list of natural numbers. Versions compare component by component, and a
missing component counts as zero, so 12 and 12.0 are the same version in every comparison.

* `Version.ofValue`: reads a version in any of the forms in which it may be given;
* `Version.atLeast`: whether one version reaches another;
* `Version.display`: the components joined by points.
-/

namespace MigrationSafety

/-- A version: the components before and between the points. -/
structure Version where
  components : List Nat
  nonempty : components ≠ [] := by simp
  deriving DecidableEq

namespace Version

/-- A list filled up with zeros to a length. -/
def pad (width : Nat) (components : List Nat) : List Nat :=
  components ++ List.replicate (width - components.length) 0

/-- Whether a list is not below another one of the same length, the first difference deciding. -/
def notBelow : List Nat → List Nat → Bool
  | a :: as, b :: bs => if a == b then notBelow as bs else b < a
  | _, _ => true

/-- Whether the first list of components reaches the second one, both filled up with zeros. -/
def reaches (mine threshold : List Nat) : Bool :=
  let width := max mine.length threshold.length
  notBelow (pad width mine) (pad width threshold)

/-- Whether a version is another one or a later one. -/
def atLeast (v threshold : Version) : Bool :=
  reaches v.components threshold.components

/-- The components joined by points. -/
def display (v : Version) : String :=
  ".".intercalate (v.components.map toString)

/-- The version with the given components, if there are any and none is negative. -/
def ofIntegers? (ns : List Int) : Option Version :=
  if h : ns ≠ [] then
    if ns.all (0 ≤ ·) then some { components := ns.map Int.toNat, nonempty := by simpa using h }
    else none
  else none

/-- The integer that an item of a list stands for. -/
def component? : Value → Option Int
  | .flag b => some (if b then 1 else 0)
  | .int n => some n
  | .float x => x.truncate?
  | .text s => (Text.readInteger s).toOption
  | _ => none

/-- The integers that a text writes between its points. -/
def ofText? (s : String) : Option Version :=
  let pieces := (Text.splitAtEach '.' s.toList).map String.ofList
  (pieces.mapM fun p => (Text.readInteger p).toOption).bind ofIntegers?

/-- Reads a version: a list of components, or a number or text with points between them. Null and
a blank text stand for no version. -/
def ofValue (v : Value) : Except ValueFault (Option Version) :=
  let orRefuse (found : Option Version) : Except ValueFault (Option Version) :=
    match found with
    | some version => .ok (some version)
    | none => .error (.invalidVersion v)
  match v with
  | .null => .ok none
  | .list items => orRefuse ((items.mapM component?).bind ofIntegers?)
  | .int _ | .float _ | .text _ =>
    let text := Text.trim v.display
    if text == "" then .ok none else orRefuse (ofText? text)
  | .flag _ | .record _ => .error (.invalidVersion v)

@[simp] theorem length_pad (width : Nat) (cs : List Nat) :
    (pad width cs).length = max width cs.length := by
  simp [pad]
  omega

theorem components_ofIntegers? {ns : List Int} {v : Version} (h : ofIntegers? ns = some v) :
    v.components = ns.map Int.toNat := by
  simp only [ofIntegers?] at h
  split at h
  · split at h
    · cases h; rfl
    · simp at h
  · simp at h

end Version

end MigrationSafety
