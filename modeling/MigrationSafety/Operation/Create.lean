import MigrationSafety.Failure
import MigrationSafety.Operation.Basic
import MigrationSafety.Text.Occurrence

/-!
# Building operations

Operations are built from fields given by place or by name. What is given is checked in a fixed
order, and the first fault found is the one reported: the number of fields given by place, every
name in the order given, the fields that were left out, the shape of column names, fields that are
empty, flags, and last what fields of one kind demand of each other.

* `Operation.construct`: an operation of a known kind;
* `Operation.create`: an operation whose kind is given by name;
* `Operation.ofValue`: an operation as plans write it.
-/

namespace MigrationSafety.Operation

/-- Fields given by place and by name. -/
structure Arguments where
  placed : List Value
  named : List (String × Value)

/-- The fault with a name, where the fields `placed` have been given by place. -/
def nameFault? (kind : Kind) (placed : List String) (name : String) : Option OperationFault :=
  if placed.contains name then some (.givenTwice kind name)
  else if (kind.fields.map (·.name)).contains name then none
  else if flagNames.contains name then some (.foreignFlag kind name)
  else some (.unknownField kind name)

/-- The fault with the choice of fields that were given. -/
def argumentFault? (kind : Kind) (args : Arguments) : Option OperationFault :=
  let fields := kind.fields
  if fields.length < args.placed.length then
    some (.tooManyFields kind fields.length args.placed.length)
  else
    let placed := (fields.take args.placed.length).map (·.name)
    match args.named.findSome? fun (name, _) => nameFault? kind placed name with
    | some fault => some fault
    | none =>
      let absent := fields.find? fun f =>
        f.default?.isNone && !placed.contains f.name && (args.named.lookup f.name).isNone
      absent.map fun f => .missing kind f.name

/-- The value of each field: by place, else by name, else its default. -/
def bind : List Field → Arguments → List (Field × Value)
  | [], _ => []
  | f :: fs, ⟨v :: placed, named⟩ => (f, v) :: bind fs ⟨placed, named⟩
  | f :: fs, ⟨[], named⟩ =>
    (f, (named.lookup f.name).getD (f.default?.getD .null)) :: bind fs ⟨[], named⟩

/-- The column names that a value stands for: one, several, or none if it counts as absent. -/
def columnNames : Value → Except ShapeFault (List Value)
  | .text s => .ok [.text s]
  | .list items => .ok items
  | .record fields => .ok (fields.map fun (k, _) => .text k)
  | v => if v.truthy then .error (.notASequence v) else .ok []

/-- Turns the values of fields for column names into lists. -/
def settle : List (Field × Value) → Except ShapeFault (List (Field × Value))
  | [] => .ok []
  | (f, v) :: rest => do
    let v ← if f.role = .columns then (columnNames v).map .list else .ok v
    let rest ← settle rest
    .ok ((f, v) :: rest)

/-- Whether the value of a field that has to be given says nothing. -/
def isBlankValue : Field → Value → Bool
  | _, .null => true
  | _, .text s => s == ""
  | f, .list items => f.role == .columns && items.isEmpty
  | _, _ => false

/-- The fault with the values of single fields. -/
def valueFault? (kind : Kind) (given : List (Field × Value)) : Option OperationFault :=
  match given.find? fun (f, v) => f.default?.isNone && isBlankValue f v with
  | some (f, _) => some (.missing kind f.name)
  | none =>
    flagNames.findSome? fun name =>
      match given.find? fun (f, _) => f.name == name with
      | none | some (_, .flag _) => none
      | some (_, v) => some (.notAFlag kind name v)

/-- The fault with fields that demand something of each other. -/
def relationFault? : Operation → Option OperationFault
  | renameColumn _ column newName =>
    if column.equal newName then some (.sameName .renameColumn column) else none
  | renameTable table newName =>
    if table.equal newName then some (.sameName .renameTable table) else none
  | removeIndex _ name columns _ =>
    if !name.truthy && columns.isEmpty then some .unidentifiedIndex else none
  | validateForeignKey _ toTable name =>
    if !toTable.truthy && !name.truthy then some .untargetedValidation else none
  | _ => none

/-- Builds an operation of a known kind. -/
def construct (kind : Kind) (args : Arguments) : Outcome Operation :=
  if (args.named.lookup "self").isSome then .error (.shape (.reservedField "self"))
  else
    match argumentFault? kind args with
    | some fault => .error (.operation fault)
    | none =>
      match settle (bind kind.fields args) with
      | .error fault => .error (.shape fault)
      | .ok given =>
        match valueFault? kind given with
        | some fault => .error (.operation fault)
        | none =>
          match ofValues? kind (given.map (·.2)) with
          | none => .error (.shape .wrongArguments)
          | some op =>
            match relationFault? op with
            | some fault => .error (.operation fault)
            | none => .ok op

/-- Builds an operation whose kind is given by name. -/
def create (kind : Value) (named : List (String × Value)) : Outcome Operation :=
  if (named.lookup "kind").isSome then .error (.shape (.reservedField "kind"))
  else if !kind.isScalar then .error (.shape (.notAKey kind))
  else
    match kind with
    | .text s =>
      match Kind.ofName? s with
      | some k => construct k ⟨[], named⟩
      | none => .error (.operation (.unknownKind kind))
    | _ => .error (.operation (.unknownKind kind))

/-- The fields of a record without the one that names the kind. -/
def withoutType (fields : List (String × Value)) : List (String × Value) :=
  fields.filter (·.1 != "type")

/-- Builds an operation of a known kind from a record, whatever kind the record names. -/
def ofRecord (kind : Kind) : Value → Outcome Operation
  | .record fields => create (.text kind.name) (withoutType fields)
  | v => .error (.shape (.noMember v "items"))

/-- Builds an operation from the form in which plans write it: a record with the key `type`. -/
def ofValue : Value → Outcome Operation
  | .record fields =>
    match fields.lookup "type" with
    | none => .error (.operation .noKind)
    | some kind => create kind (withoutType fields)
  | .list items =>
    if items.any (Value.equal (.text "type")) then
      .error (.shape (.noMember (.list items) "items"))
    else .error (.operation .noKind)
  | .text s =>
    if Text.occursIn "type".toList s.toList then .error (.shape (.noMember (.text s) "items"))
    else .error (.operation .noKind)
  | v => .error (.shape (.notAContainer v))

end MigrationSafety.Operation
