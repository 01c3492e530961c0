import MigrationSafety.Proofs.Operation.Create
import MigrationSafety.Proofs.Value.Proper

/-!
# Operations in written form

An operation is written as a record of all its fields, under their names. Read back, it has to pass
the checks of its constructor again, on fields that all are given and are settled already.

* `Operation.IsBuilt`, `Operation.isBuilt_of_ofValue`: what constructors make, and what is read;
* `Operation.construct_eq_ok`: what it takes for a constructor to make an operation;
* `Operation.construct_named`: an operation is made of its own fields;
* `Operation.ofValue_record`, `Operation.ofRecord_record`: it is read back from its record;
* `Operation.equal_self`: an operation of JSON values is equal to itself.
-/

namespace MigrationSafety.Operation

/-- An operation that the constructor of its kind makes of some fields, by place or by name. -/
def IsBuilt (op : Operation) : Prop :=
  ∃ args, construct op.kind args = .ok op

/-- An operation makes the values of its fields, and they make the operation. -/
theorem ofValues?_eq_some {kind : Kind} {vs : List Value} {op : Operation} :
    ofValues? kind vs = some op ↔ op.kind = kind ∧ op.values = vs := by
  constructor
  · intro h
    unfold ofValues? at h
    split at h <;> cases h <;> exact ⟨rfl, rfl⟩
  · rintro ⟨rfl, rfl⟩
    exact ofValues?_values op

/-- A constructor makes an operation of settled fields if none of its checks finds a fault. -/
theorem construct_eq_ok {kind : Kind} {args : Arguments} {op : Operation} :
    construct kind args = .ok op ↔ args.named.lookup "self" = none ∧
      argumentFault? kind args = none ∧ ∃ given, settle (bind kind.fields args) = .ok given ∧
        valueFault? kind given = none ∧ ofValues? kind (given.map (·.2)) = some op ∧
        relationFault? op = none := by
  unfold construct
  cases args.named.lookup "self" with
  | some v => simp
  | none =>
    simp only [Option.isSome_none, Bool.false_eq_true, if_false, true_and]
    cases argumentFault? kind args with
    | some fault => simp
    | none =>
      simp only [true_and]
      cases settle (bind kind.fields args) with
      | error fault => simp
      | ok given =>
        simp only [Except.ok.injEq, exists_eq_left']
        cases valueFault? kind given with
        | some fault => simp
        | none =>
          simp only [true_and]
          cases ofValues? kind (given.map (·.2)) with
          | none => simp
          | some op' =>
            cases hrelation : relationFault? op' <;> grind

/-! ## The fields of an operation -/

section
variable (op : Operation)

/-- The fields of an operation under their names. -/
def namedFields : List (String × Value) :=
  op.assignments.map fun (f, v) => (f.name, v)

theorem nodup_namedFields : (op.namedFields.map Prod.fst).Nodup := by
  have hnames : op.namedFields.map Prod.fst = (op.assignments.map Prod.fst).map (·.name) := by
    rw [namedFields, List.map_map, List.map_map]
    rfl
  rw [hnames, map_fst_assignments]
  exact nodup_fields op.kind

/-- Every field of an operation is found under its name. -/
theorem lookup_namedFields {x : Field × Value} (hx : x ∈ op.assignments) :
    op.namedFields.lookup x.1.name = some x.2 :=
  lookup_of_nodup op.nodup_namedFields
    (List.mem_map_of_mem (f := fun x : Field × Value => (x.1.name, x.2)) hx)

theorem exists_field_of_mem {x : String × Value} (hx : x ∈ op.namedFields) :
    ∃ f ∈ op.kind.fields, f.name = x.1 := by
  obtain ⟨y, hy, rfl⟩ := List.mem_map.mp hx
  exact ⟨y.1, map_fst_assignments op ▸ List.mem_map_of_mem hy, rfl⟩

end

/-- No field has a name that written forms or constructors take for something else. -/
theorem name_not_reserved {kind : Kind} {f : Field} (hf : f ∈ kind.fields) :
    f.name ∉ ["type", "kind", "self"] := by
  have hall : ∀ f ∈ kind.fields, f.name ∉ ["type", "kind", "self"] := by
    cases kind <;> simp [Kind.fields, Field.required, Field.optional, Field.columns,
      Field.optionalColumns, Field.flag]
  exact hall f hf

theorem lookup_reserved (op : Operation) {name : String}
    (hname : name ∈ ["type", "kind", "self"]) : op.namedFields.lookup name = none := by
  refine List.lookup_eq_none_iff.mpr fun x hx => bne_iff_ne.mpr ?_
  obtain ⟨f, hf, hfx⟩ := op.exists_field_of_mem hx
  rintro rfl
  exact name_not_reserved hf (hfx ▸ hname)

/-- The record of an operation without its kind holds the fields. -/
theorem withoutType_record (op : Operation) :
    withoutType (("type", .text op.kind.name) :: op.namedFields) = op.namedFields := by
  rw [withoutType, List.filter_cons_of_neg (by simp), List.filter_eq_self]
  intro x hx
  obtain ⟨f, hf, hfx⟩ := op.exists_field_of_mem hx
  exact bne_iff_ne.mpr fun heq => name_not_reserved hf (by simp [hfx, heq])

/-! ## Fields that are given again -/

/-- No field of an operation has a name that its kind does not know. -/
theorem nameFault?_namedFields (op : Operation) :
    op.namedFields.findSome? (fun (name, _) => nameFault? op.kind [] name) = none := by
  refine List.findSome?_eq_none_iff.mpr fun x hx => ?_
  have hknown : (op.kind.fields.map (·.name)).contains x.1 = true :=
    List.contains_iff_mem.mpr (List.mem_map.mpr (op.exists_field_of_mem hx))
  simp only [nameFault?, List.contains_nil, Bool.false_eq_true, if_false, hknown, if_true]

/-- No fault is found with the choice of fields, if all are given under their names. -/
theorem argumentFault?_namedFields (op : Operation) :
    argumentFault? op.kind ⟨[], op.namedFields⟩ = none := by
  have habsent : op.kind.fields.find? (fun f => f.default?.isNone && !([] : List String).contains
      f.name && (op.namedFields.lookup f.name).isNone) = none := by
    refine List.find?_eq_none.mpr fun f hf => ?_
    rw [← map_fst_assignments op] at hf
    obtain ⟨x, hx, rfl⟩ := List.mem_map.mp hf
    simp [lookup_namedFields op hx]
  simp only [argumentFault?, List.length_nil, Nat.not_lt_zero, if_false, List.take_zero,
    List.map_nil, nameFault?_namedFields op, habsent, Option.map_none]

theorem bind_namedFields (op : Operation) :
    bind op.kind.fields ⟨[], op.namedFields⟩ = op.assignments := by
  rw [bind_named, ← map_fst_assignments op, List.map_map]
  conv_rhs => rw [← List.map_id op.assignments]
  refine List.map_congr_left fun x hx => ?_
  simp [lookup_namedFields op hx]

theorem settled_settled {x y : Field × Value} (h : settled x = .ok y) : settled y = .ok y := by
  obtain ⟨hfield, hcolumns⟩ := settled_eq_ok h
  rw [settled]
  by_cases hrole : y.1.role = .columns
  · obtain ⟨items, hitems⟩ := hcolumns (hfield ▸ hrole)
    rw [if_pos hrole, hitems, columnNames]
    exact congrArg Except.ok (Prod.ext rfl hitems.symm)
  · simp only [hrole, if_false]

/-- Settled fields stay as they are. -/
theorem settle_settled {given out : List (Field × Value)} (h : settle given = .ok out) :
    settle out = .ok out := by
  rw [settle_eq_mapM, mapM_eq_ok] at h ⊢
  refine List.forall₂_same.mpr fun y hy => ?_
  obtain ⟨x, -, hx⟩ := exists_of_forall₂ h hy
  exact settled_settled hx

/-- The settled fields of which an operation is made are those that it has. -/
theorem assignments_of_construct {args : Arguments} {op : Operation} {given : List (Field × Value)}
    (hsettle : settle (bind op.kind.fields args) = .ok given)
    (hvalues : ofValues? op.kind (given.map (·.2)) = some op) : given = op.assignments :=
  List.zip_of_prod (map_fst_of_settle hsettle) (ofValues?_eq_some.mp hvalues).2.symm

/-- An operation that a constructor makes is made of its own fields too. -/
theorem construct_named {op : Operation} (hbuilt : op.IsBuilt) :
    construct op.kind ⟨[], op.namedFields⟩ = .ok op := by
  obtain ⟨args, hargs⟩ := hbuilt
  obtain ⟨-, -, given, hsettle, hfault, hvalues, hrelation⟩ := construct_eq_ok.mp hargs
  obtain rfl := assignments_of_construct hsettle hvalues
  refine construct_eq_ok.mpr ⟨op.lookup_reserved (by decide), argumentFault?_namedFields op,
    op.assignments, ?_, hfault, hvalues, hrelation⟩
  rw [bind_namedFields]
  exact settle_settled hsettle

/-! ## Records that are read back -/

theorem create_namedFields {op : Operation} (hbuilt : op.IsBuilt) :
    create (.text op.kind.name) op.namedFields = .ok op := by
  rw [create, op.lookup_reserved (by decide)]
  simp only [Option.isSome_none, Bool.false_eq_true, if_false, Value.isScalar, Bool.not_true,
    Kind.ofName?_name]
  exact construct_named hbuilt

/-- An operation is read back from its record. -/
theorem ofValue_record {op : Operation} (hbuilt : op.IsBuilt) : ofValue op.record = .ok op := by
  show create (.text op.kind.name) (withoutType (("type", .text op.kind.name) :: op.namedFields)) =
    .ok op
  rw [withoutType_record]
  exact create_namedFields hbuilt

theorem ofRecord_record {op : Operation} (hbuilt : op.IsBuilt) :
    ofRecord op.kind op.record = .ok op := by
  show create (.text op.kind.name) (withoutType (("type", .text op.kind.name) :: op.namedFields)) =
    .ok op
  rw [withoutType_record]
  exact create_namedFields hbuilt

/-- Constructors make operations of their kind. -/
theorem isBuilt_of_construct {kind : Kind} {args : Arguments} {op : Operation}
    (h : construct kind args = .ok op) : op.IsBuilt := by
  obtain ⟨-, -, given, -, -, hvalues, -⟩ := construct_eq_ok.mp h
  obtain ⟨rfl, -⟩ := ofValues?_eq_some.mp hvalues
  exact ⟨args, h⟩

/-- What is read as an operation was made by a constructor. -/
theorem isBuilt_of_ofValue {v : Value} {op : Operation} (h : ofValue v = .ok op) :
    op.IsBuilt := by
  have hcreate : ∃ kind named, create kind named = .ok op := by
    unfold ofValue at h
    repeat' split at h
    case h_2 => exact ⟨_, _, h⟩
    all_goals cases h
  obtain ⟨kind, named, hcreate⟩ := hcreate
  unfold create at hcreate
  repeat' split at hcreate
  case h_1 => exact isBuilt_of_construct hcreate
  all_goals cases hcreate

/-! ## Equality -/

/-- Whether the values of all fields are proper. -/
def isProper (op : Operation) : Bool :=
  Value.areProper op.values

theorem equal_self {op : Operation} (h : op.isProper = true) : op.equal op = true := by
  rw [equal, beq_self_eq_true, Bool.true_and]
  exact Value.equalItems_self h

end MigrationSafety.Operation
