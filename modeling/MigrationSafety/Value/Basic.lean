import MigrationSafety.Number.Binary64

/-!
# Loosely typed values

A migration plan is written down as data, and the fields of an operation may hold anything that
data can hold. `Value` is that: null, a flag, a number, a text, a list, or a record with its keys
in the order they were written.

* `Value.truthy`: whether a value counts as present;
* `Value.equal`: equality, in which a flag counts as 0 or 1, numbers compare by what they mean,
  and the order of keys does not matter;
* `Value.isScalar`: values that can serve as keys.
-/

namespace MigrationSafety

/-- A value as plans hold it. -/
inductive Value where
  | null
  | flag (b : Bool)
  | int (n : Int)
  | float (x : Binary64)
  | text (s : String)
  | list (items : List Value)
  | record (fields : List (String × Value))
  deriving Inhabited

/-- The value that the last pair with a key gives it. -/
def lookupLast? {α β : Type} [BEq α] (key : α) : List (α × β) → Option β
  | [] => none
  | (k, v) :: rest => (lookupLast? key rest).or (if k == key then some v else none)

/-- Gives a key a value. A key that is there keeps its place. -/
def assign {α β : Type} [BEq α] (key : α) (value : β) : List (α × β) → List (α × β)
  | [] => [(key, value)]
  | (k, v) :: rest => if k == key then (k, value) :: rest else (k, v) :: assign key value rest

namespace Value

/-- Whether a value counts as present: null, false, zero and whatever is empty do not. -/
def truthy : Value → Bool
  | .null => false
  | .flag b => b
  | .int n => n != 0
  | .float x => !x.isZero
  | .text s => s != ""
  | .list items => !items.isEmpty
  | .record fields => !fields.isEmpty

/-- What a number or flag means: an integer, or a number that is none. -/
def number? : Value → Option (Int ⊕ Binary64)
  | .flag b => some (.inl (if b then 1 else 0))
  | .int n => some (.inl n)
  | .float x => some (match x.toInt? with | some n => .inl n | none => .inr x)
  | _ => none

/-- Equality of two numbers or flags; anything else is equal to none of them. -/
def sameNumber (v w : Value) : Bool :=
  match v.number?, w.number? with
  | some (.inl m), some (.inl n) => m == n
  | some (.inr x), some (.inr y) => x.equal y
  | _, _ => false

mutual

/-- Equality of values. -/
def equal : Value → Value → Bool
  | .null, .null => true
  | .text s, .text t => s == t
  | .list xs, .list ys => equalItems xs ys
  | .record fs, .record gs => fs.length == gs.length && equalFields fs gs
  | v, w => sameNumber v w

/-- Equality of lists, item by item. -/
def equalItems : List Value → List Value → Bool
  | [], [] => true
  | x :: xs, y :: ys => equal x y && equalItems xs ys
  | _, _ => false

/-- Whether every field is found, with an equal value, among other fields. -/
def equalFields : List (String × Value) → List (String × Value) → Bool
  | [], _ => true
  | (k, v) :: fs, gs =>
    (match gs.lookup k with
    | some w => equal v w
    | none => false) && equalFields fs gs

end

/-- Values that can serve as keys: all but lists and records. -/
def isScalar : Value → Bool
  | .list _ | .record _ => false
  | _ => true

/-- Whether a value is a text. -/
def isText : Value → Bool
  | .text _ => true
  | _ => false

/-- The field of a record. -/
def get? (v : Value) (key : String) : Option Value :=
  match v with
  | .record fields => fields.lookup key
  | _ => none

@[simp] theorem truthy_text (s : String) : truthy (.text s) = (s != "") := rfl

@[simp] theorem equal_text (s t : String) : equal (.text s) (.text t) = (s == t) := by
  simp [equal]

@[simp] theorem equal_null : equal .null .null = true := by
  simp [equal]

end Value

end MigrationSafety
