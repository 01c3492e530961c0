import Mathlib.Data.List.Nodup
import MigrationSafety.Operation.Create
import MigrationSafety.Proofs.Outcome
import MigrationSafety.Proofs.Value.Equality

/-!
# Operations that cannot be built

A malformed operation is refused with a fault that says what is wrong with it. Some written forms
are not looked at that closely: they do not fit the use that is made of them, which no fault of
operations foresees.

* `StopsAtShape`: a computation that stops at a value that does not fit its use;
* `settle_eq_ok`, `settle_eq_error`: column names are turned into lists, or are none;
* `fits_of_settle`, `isSome_ofValues?`: settled fields without a fault make an operation;
* `Operation.Misshapen`, `Operation.misshapen_record`, `Operation.stopsAtShape_ofValue`: the written
  forms that do not fit;
* `Operation.inReading_ofValue`: all others are operations or have a fault.
-/

namespace MigrationSafety

/-- Whether a value is null, a flag or a number, which hold no items. -/
def Value.IsBare (v : Value) : Prop :=
  v.isScalar = true ∧ v.isText = false

/-- A failure in reading a plan: a malformed operation, or a value that does not fit its use. -/
inductive Failure.InReading : Failure → Prop
  | operation (fault : OperationFault) : InReading (.operation fault)
  | shape (fault : ShapeFault) : InReading (.shape fault)

/-! ## Values that do not fit their use -/

/-- A computation that stops because a value does not fit its use. -/
def StopsAtShape {α : Type} (x : Outcome α) : Prop :=
  ∃ fault, x = .error (.shape fault)

section
variable {α β : Type}

theorem stopsAtShape_shape (fault : ShapeFault) :
    StopsAtShape (.error (.shape fault) : Outcome α) := ⟨fault, rfl⟩

theorem not_stopsAtShape_ok (a : α) : ¬StopsAtShape (.ok a : Outcome α) := nofun

theorem not_stopsAtShape_operation (fault : OperationFault) :
    ¬StopsAtShape (.error (.operation fault) : Outcome α) := nofun

theorem stopsAtShape_ite {c : Prop} [Decidable c] {fault : ShapeFault} {fault' : OperationFault} :
    StopsAtShape (if c then .error (.shape fault) else .error (.operation fault') : Outcome α) ↔
      c := by
  split
  · exact iff_of_true (stopsAtShape_shape fault) ‹c›
  · exact iff_of_false (not_stopsAtShape_operation fault') ‹¬c›

theorem stopsAtShape_mapError_shape {x : Except ShapeFault α} :
    StopsAtShape (x.mapError .shape) ↔ ∃ fault, x = .error fault := by
  simp [StopsAtShape, mapError_eq_error]

theorem not_stopsAtShape_mapError_operation {x : Except OperationFault α} :
    ¬StopsAtShape (x.mapError .operation) := by
  simp [StopsAtShape, mapError_eq_error]

theorem stopsAtShape_bind {x : Outcome α} {f : α → Outcome β} :
    StopsAtShape (x >>= f) ↔ StopsAtShape x ∨ ∃ a, x = .ok a ∧ StopsAtShape (f a) := by
  simp only [StopsAtShape, bind_eq_error]
  constructor
  · rintro ⟨fault, hx | ⟨a, hx, ha⟩⟩
    · exact .inl ⟨fault, hx⟩
    · exact .inr ⟨a, hx, fault, ha⟩
  · rintro (⟨fault, hx⟩ | ⟨a, hx, fault, ha⟩)
    · exact ⟨fault, .inl hx⟩
    · exact ⟨fault, .inr ⟨a, hx, ha⟩⟩

/-- A computation for every item stops at a value that does not fit if it does so for an item and
has a result for each item before. -/
theorem stopsAtShape_mapM {f : α → Outcome β} {as : List α} :
    StopsAtShape (as.mapM f) ↔ ∃ before a after, as = before ++ a :: after ∧
      (∀ b ∈ before, ∃ c, f b = .ok c) ∧ StopsAtShape (f a) := by
  simp only [StopsAtShape, mapM_eq_error]
  constructor
  · rintro ⟨fault, before, a, after, hsplit, hbefore, ha⟩
    exact ⟨before, a, after, hsplit, hbefore, fault, ha⟩
  · rintro ⟨before, a, after, hsplit, hbefore, fault, ha⟩
    exact ⟨fault, before, a, after, hsplit, hbefore, ha⟩

end

namespace Operation

/-! ## Column names -/

/-- A value that stands for no column names: a number or a flag that counts as given. -/
def IsNoColumns (v : Value) : Prop :=
  v.IsBare ∧ v.truthy = true

theorem columnNames_eq_error {v : Value} :
    (∃ fault, columnNames v = .error fault) ↔ IsNoColumns v := by
  have hnumber {truthy : Bool} {fault : ShapeFault} : (∃ fault', (if truthy then
      Except.error fault else .ok [] : Except ShapeFault (List Value)) = .error fault') ↔
      truthy = true := by
    cases truthy <;> simp
  cases v <;> simp [columnNames, IsNoColumns, Value.IsBare, Value.isScalar, Value.isText, hnumber]

/-- A field and its value, with column names turned into a list. -/
def settled (x : Field × Value) : Except ShapeFault (Field × Value) :=
  if x.1.role = .columns then (columnNames x.2).map fun items => (x.1, .list items) else .ok x

theorem settle_eq_mapM (given : List (Field × Value)) : settle given = given.mapM settled := by
  induction given with
  | nil => rfl
  | cons x given ih =>
    obtain ⟨f, v⟩ := x
    rw [settle, ih, List.mapM_cons, settled]
    by_cases hrole : f.role = .columns
    · simp only [hrole, if_true]
      cases columnNames v <;> rfl
    · simp only [hrole, if_false]
      rfl

theorem settled_eq_ok {x y : Field × Value} (h : settled x = .ok y) :
    y.1 = x.1 ∧ (x.1.role = .columns → ∃ items, y.2 = .list items) := by
  rw [settled] at h
  split at h
  · cases hnames : columnNames x.2 with
    | error fault =>
      rw [hnames] at h
      cases h
    | ok items =>
      rw [hnames] at h
      cases h
      exact ⟨rfl, fun _ => ⟨items, rfl⟩⟩
  · rename_i hrole
    cases h
    exact ⟨rfl, fun hcolumns => absurd hcolumns hrole⟩

theorem settled_eq_error {x : Field × Value} :
    (∃ fault, settled x = .error fault) ↔ x.1.role = .columns ∧ IsNoColumns x.2 := by
  rw [← columnNames_eq_error, settled]
  by_cases hrole : x.1.role = .columns
  · cases hnames : columnNames x.2 <;> simp [hrole, Except.map]
  · simp [hrole]

theorem settle_eq_ok {given out : List (Field × Value)} (h : settle given = .ok out) :
    List.Forall₂ (fun x y => y.1 = x.1 ∧ (x.1.role = .columns → ∃ items, y.2 = .list items))
      given out := by
  rw [settle_eq_mapM] at h
  exact (mapM_eq_ok.mp h).imp fun x y hxy => settled_eq_ok hxy

theorem settle_eq_error {given : List (Field × Value)} :
    (∃ fault, settle given = .error fault) ↔
      ∃ x ∈ given, x.1.role = .columns ∧ IsNoColumns x.2 := by
  simp only [settle_eq_mapM, ← settled_eq_error]
  constructor
  · rintro ⟨fault, h⟩
    obtain ⟨before, x, after, rfl, -, hx⟩ := mapM_eq_error.mp h
    exact ⟨x, by simp, fault, hx⟩
  · rintro ⟨x, hx, fault, hfault⟩
    cases hout : given.mapM settled with
    | error fault' => exact ⟨fault', rfl⟩
    | ok out =>
      obtain ⟨i, hi⟩ := List.getElem?_of_mem hx
      obtain ⟨y, -, hy⟩ := getElem?_of_forall₂ (mapM_eq_ok.mp hout) hi
      cases hfault.symm.trans hy

/-! ## Fields -/

/-- Whether a field can hold a value: column names are a list and flags are flags. -/
def Field.Fits (f : Field) (v : Value) : Prop :=
  (f.role = .columns → ∃ items, v = .list items) ∧ (f.role = .flag → ∃ b, v = .flag b)

theorem fits_plain {name : String} {default? : Option Value} {v : Value} :
    (Field.mk name .plain default?).Fits v :=
  ⟨nofun, nofun⟩

theorem fits_columns {name : String} {default? : Option Value} {v : Value} :
    (Field.mk name .columns default?).Fits v ↔ ∃ items, v = .list items := by
  simp [Field.Fits]

theorem fits_flag {name : String} {default? : Option Value} {v : Value} :
    (Field.mk name .flag default?).Fits v ↔ ∃ b, v = .flag b := by
  simp [Field.Fits]

/-- Values that the fields of a kind can hold make an operation. -/
theorem isSome_ofValues? {kind : Kind} {vs : List Value}
    (h : List.Forall₂ Field.Fits kind.fields vs) : (ofValues? kind vs).isSome = true := by
  cases kind <;>
    simp only [Kind.fields, Field.required, Field.optional, Field.columns, Field.optionalColumns,
      Field.flag, List.forall₂_cons_left_iff, List.forall₂_nil_left_iff, fits_plain, fits_columns,
      fits_flag, true_and] at h <;>
    grind [ofValues?]

theorem map_fst_bind (fields : List Field) (args : Arguments) :
    (bind fields args).map Prod.fst = fields := by
  induction fields generalizing args with
  | nil => rfl
  | cons f fields ih =>
    obtain ⟨placed, named⟩ := args
    cases placed with
    | nil => rw [bind, List.map_cons, ih]
    | cons v placed => rw [bind, List.map_cons, ih]

/-- The value of each field, where all are given by name. -/
theorem bind_named (fields : List Field) (named : List (String × Value)) :
    bind fields ⟨[], named⟩ =
      fields.map fun f => (f, (named.lookup f.name).getD (f.default?.getD .null)) := by
  induction fields with
  | nil => rfl
  | cons f fields ih => rw [bind, List.map_cons, ih]

theorem nodup_fields (kind : Kind) : (kind.fields.map (·.name)).Nodup := by
  cases kind <;> decide

/-- Where the names of fields differ, each field is found by its name. -/
theorem find?_name_of_nodup {given : List (Field × Value)}
    (hnodup : (given.map fun x => x.1.name).Nodup) {x : Field × Value} (hx : x ∈ given) :
    given.find? (fun (g, _) => g.name == x.1.name) = some x := by
  obtain ⟨y, hy⟩ : ∃ y, given.find? (fun (g, _) => g.name == x.1.name) = some y :=
    Option.isSome_iff_exists.mp (List.find?_isSome.mpr ⟨x, hx, beq_self_eq_true _⟩)
  have hname : y.1.name = x.1.name := by simpa using List.find?_some hy
  rw [hy, List.inj_on_of_nodup_map hnodup (List.mem_of_find?_eq_some hy) hx hname]

/-- The fields that kinds have: plain ones, column names that have to be given or may be left out,
and flags. -/
theorem field_cases {kind : Kind} {f : Field} (hf : f ∈ kind.fields) :
    (f.role = .plain ∧ f.name ≠ "columns") ∨ f = .columns ∨ f = .optionalColumns ∨
      (f.role = .flag ∧ f.name ∈ flagNames) := by
  have hall : ∀ f ∈ kind.fields, (f.role = .plain ∧ f.name ≠ "columns") ∨ f = .columns ∨
      f = .optionalColumns ∨ (f.role = .flag ∧ f.name ∈ flagNames) := by
    cases kind <;> simp [Kind.fields, Field.required, Field.optional, Field.columns,
      Field.optionalColumns, Field.flag, flagNames]
  exact hall f hf

theorem mem_flagNames {kind : Kind} {f : Field} (hf : f ∈ kind.fields) (hrole : f.role = .flag) :
    f.name ∈ flagNames := by
  rcases field_cases hf with ⟨hplain, -⟩ | rfl | rfl | ⟨-, hname⟩
  · cases hplain.symm.trans hrole
  · cases hrole
  · cases hrole
  · exact hname

/-- Where no value has a fault, flags are flags. -/
theorem flag_of_valueFault? {kind : Kind} {given : List (Field × Value)}
    (hfields : given.map Prod.fst = kind.fields) (h : valueFault? kind given = none)
    {x : Field × Value} (hx : x ∈ given) (hrole : x.1.role = .flag) : ∃ b, x.2 = .flag b := by
  obtain ⟨f, v⟩ := x
  rw [valueFault?] at h
  split at h
  · cases h
  · have hf : f ∈ kind.fields := hfields ▸ List.mem_map_of_mem hx
    have hname := List.findSome?_eq_none_iff.mp h f.name (mem_flagNames hf hrole)
    have hnodup : (given.map fun x => x.1.name).Nodup := by
      have hnames := nodup_fields kind
      rwa [← hfields, List.map_map] at hnames
    rw [find?_name_of_nodup hnodup hx] at hname
    cases v <;> simp at hname ⊢

theorem map_fst_of_settle {fields : List Field} {args : Arguments} {given : List (Field × Value)}
    (hsettle : settle (bind fields args) = .ok given) : given.map Prod.fst = fields := by
  rw [← map_fst_bind fields args]
  exact (map_eq_of_forall₂ (settle_eq_ok hsettle) fun _ _ hxy => hxy.1.symm).symm

/-- Settled fields without a fault are such as the kind can hold. -/
theorem fits_of_settle {kind : Kind} {args : Arguments} {given : List (Field × Value)}
    (hsettle : settle (bind kind.fields args) = .ok given) (h : valueFault? kind given = none) :
    List.Forall₂ Field.Fits kind.fields (given.map (·.2)) := by
  have hfields := map_fst_of_settle hsettle
  rw [← hfields, List.forall₂_map_left_iff, List.forall₂_map_right_iff, List.forall₂_same]
  intro y hy
  refine ⟨fun hrole => ?_, fun hrole => flag_of_valueFault? hfields h hy hrole⟩
  obtain ⟨x, -, hxy, hcolumns⟩ := exists_of_forall₂ (settle_eq_ok hsettle) hy
  exact hcolumns (hxy ▸ hrole)

/-! ## Operations -/

/-- An operation of a known kind stops at a value that does not fit its use if a field has a name
that none may have, or if fields without a fault give no column names. -/
theorem stopsAtShape_construct {kind : Kind} {args : Arguments} :
    StopsAtShape (construct kind args) ↔ (args.named.lookup "self").isSome = true ∨
      (argumentFault? kind args = none ∧
        ∃ x ∈ bind kind.fields args, x.1.role = .columns ∧ IsNoColumns x.2) := by
  rw [← settle_eq_error, construct]
  by_cases hself : (args.named.lookup "self").isSome = true
  · simp only [hself, if_true, true_or, iff_true]
    exact stopsAtShape_shape _
  · simp only [hself, Bool.false_eq_true, if_false, false_or]
    cases argumentFault? kind args with
    | some fault => simp [not_stopsAtShape_operation]
    | none =>
      simp only [true_and]
      cases hsettle : settle (bind kind.fields args) with
      | error fault => simp [stopsAtShape_shape]
      | ok given =>
        simp only [reduceCtorEq, exists_false, iff_false]
        cases hvalue : valueFault? kind given with
        | some fault => exact not_stopsAtShape_operation fault
        | none =>
          obtain ⟨op, hop⟩ := Option.isSome_iff_exists.mp
            (isSome_ofValues? (fits_of_settle hsettle hvalue))
          simp only [hop]
          cases relationFault? op with
          | some fault => exact not_stopsAtShape_operation fault
          | none => exact not_stopsAtShape_ok op

theorem inReading_construct {kind : Kind} {args : Arguments} {failure : Failure}
    (h : construct kind args = .error failure) : failure.InReading := by
  unfold construct at h
  repeat' split at h
  all_goals cases h
  all_goals constructor

theorem Kind.ofName?_eq_some {s : String} {k : Kind} : ofName? s = some k ↔ s = k.name := by
  constructor
  · intro h
    have hname : (k.name == s) = true := List.find?_some (p := fun k : Kind => k.name == s) h
    exact (beq_iff_eq.mp hname).symm
  · rintro rfl
    exact ofName?_name k

/-- An operation whose kind is given by name stops there if a field has the name of what gives the
kind, or if the kind cannot serve as a key, or where an operation of its kind does. -/
theorem stopsAtShape_create {kind : Value} {named : List (String × Value)} :
    StopsAtShape (create kind named) ↔ (named.lookup "kind").isSome = true ∨
      kind.isScalar = false ∨
        ∃ k : Kind, kind = .text k.name ∧ StopsAtShape (construct k ⟨[], named⟩) := by
  unfold create
  by_cases hkind : (named.lookup "kind").isSome = true
  · simp [hkind, stopsAtShape_shape]
  · simp only [hkind, Bool.false_eq_true, if_false, false_or]
    cases kind
    case text s =>
      simp only [Value.isScalar, Bool.not_true, Bool.false_eq_true, if_false, Bool.true_eq_false,
        false_or, Value.text.injEq, ← Kind.ofName?_eq_some]
      cases Kind.ofName? s with
      | none => simp [not_stopsAtShape_operation]
      | some k => simp
    all_goals simp [Value.isScalar, stopsAtShape_shape, not_stopsAtShape_operation]

theorem inReading_create {kind : Value} {named : List (String × Value)} {failure : Failure}
    (h : create kind named = .error failure) : failure.InReading := by
  unfold create at h
  repeat' split at h
  case h_1 => exact inReading_construct h
  all_goals cases h
  all_goals constructor

/-! ## Written forms -/

/-- A written form of an operation that does not fit the use that is made of it. -/
inductive Misshapen : Value → Prop
  /-- Null, a flag or a number has no keys. -/
  | bare {v : Value} (hbare : v.IsBare) : Misshapen v
  /-- A text that holds the word for the kind is taken for a record. -/
  | text {s : String} (hword : "type".toList <:+: s.toList) : Misshapen (.text s)
  /-- A list that holds the word for the kind is taken for a record. -/
  | list {items : List Value} (hword : .text "type" ∈ items) : Misshapen (.list items)
  /-- A field has the name of what gives the kind. -/
  | kind {fields : List (String × Value)} {kind : Value} (htype : fields.lookup "type" = some kind)
      (hfield : (fields.lookup "kind").isSome = true) : Misshapen (.record fields)
  /-- The kind is a list or a record, which cannot serve as a key. -/
  | key {fields : List (String × Value)} {kind : Value} (htype : fields.lookup "type" = some kind)
      (hkey : kind.isScalar = false) : Misshapen (.record fields)
  /-- A field has the name of the operation itself. -/
  | self {fields : List (String × Value)} {k : Kind}
      (htype : fields.lookup "type" = some (.text k.name))
      (hfield : (fields.lookup "self").isSome = true) : Misshapen (.record fields)
  /-- The right fields are given, and the column names are a number or a flag. -/
  | columns {fields : List (String × Value)} {k : Kind} {v : Value}
      (htype : fields.lookup "type" = some (.text k.name))
      (hfields : argumentFault? k ⟨[], withoutType fields⟩ = none)
      (hcolumns : fields.lookup "columns" = some v) (hv : IsNoColumns v) :
      Misshapen (.record fields)

theorem lookup_withoutType (fields : List (String × Value)) {name : String}
    (h : name ≠ "type") : (withoutType fields).lookup name = fields.lookup name := by
  induction fields with
  | nil => rfl
  | cons field fields ih =>
    obtain ⟨k, v⟩ := field
    by_cases hk : k = "type"
    · subst hk
      have hname : (name == "type") = false := beq_false_of_ne h
      rw [List.lookup_cons, hname]
      simpa [withoutType] using ih
    · have hkeep : withoutType ((k, v) :: fields) = (k, v) :: withoutType fields := by
        simp [withoutType, hk]
      rw [hkeep, List.lookup_cons, List.lookup_cons, ih]

/-- The fields for column names are those named for them. -/
theorem role_eq_columns_iff {kind : Kind} {f : Field} (hf : f ∈ kind.fields) :
    f.role = .columns ↔ f.name = "columns" := by
  have hflags : "columns" ∉ flagNames := by decide
  rcases field_cases hf with ⟨hrole, hname⟩ | rfl | rfl | ⟨hrole, hname⟩
  · simp [hrole, hname]
  · exact iff_of_true rfl rfl
  · exact iff_of_true rfl rfl
  · exact iff_of_false (by simp [hrole]) fun hcolumns => hflags (hcolumns ▸ hname)

/-- Column names that are left out are none, or have to be given. -/
theorem not_isNoColumns_default {kind : Kind} {f : Field} (hf : f ∈ kind.fields)
    (hrole : f.role = .columns) : ¬IsNoColumns (f.default?.getD .null) := by
  rcases field_cases hf with ⟨hplain, -⟩ | rfl | rfl | ⟨hflag, -⟩
  · cases hplain.symm.trans hrole
  · simp [Field.columns, IsNoColumns, Value.truthy]
  · simp [Field.optionalColumns, IsNoColumns, Value.IsBare, Value.isScalar]
  · cases hflag.symm.trans hrole

theorem mem_of_lookup {α : Type} {fields : List (String × α)} {name : String} {v : α}
    (h : fields.lookup name = some v) : (name, v) ∈ fields := by
  obtain ⟨before, after, rfl, -⟩ := List.lookup_eq_some_iff.mp h
  simp

/-- A field that is given without a fault is one of the kind. -/
theorem exists_field_of_lookup {kind : Kind} {named : List (String × Value)} {name : String}
    {v : Value} (h : argumentFault? kind ⟨[], named⟩ = none) (hgiven : named.lookup name = some v) :
    ∃ f ∈ kind.fields, f.name = name := by
  rw [argumentFault?] at h
  simp only [List.length_nil, Nat.not_lt_zero, if_false, List.take_zero, List.map_nil] at h
  split at h
  · cases h
  · rename_i hnames
    have hfault := List.findSome?_eq_none_iff.mp hnames _ (mem_of_lookup hgiven)
    simp only [nameFault?] at hfault
    split at hfault
    · cases hfault
    · split at hfault
      · rename_i hname
        simpa using hname
      · split at hfault <;> cases hfault

/-- Where the right fields are given, there are no column names if they are given as none. -/
theorem exists_isNoColumns_iff {kind : Kind} {named : List (String × Value)}
    (h : argumentFault? kind ⟨[], named⟩ = none) :
    (∃ x ∈ bind kind.fields ⟨[], named⟩, x.1.role = .columns ∧ IsNoColumns x.2) ↔
      ∃ v, named.lookup "columns" = some v ∧ IsNoColumns v := by
  simp only [bind_named, List.mem_map]
  constructor
  · rintro ⟨_, ⟨f, hf, rfl⟩, hrole, hv⟩
    cases hgiven : named.lookup f.name with
    | none =>
      rw [hgiven] at hv
      exact absurd hv (not_isNoColumns_default hf hrole)
    | some v =>
      rw [hgiven] at hv
      exact ⟨v, (role_eq_columns_iff hf).mp hrole ▸ hgiven, hv⟩
  · rintro ⟨v, hgiven, hv⟩
    obtain ⟨f, hf, hname⟩ := exists_field_of_lookup h hgiven
    refine ⟨_, ⟨f, hf, rfl⟩, (role_eq_columns_iff hf).mpr hname, ?_⟩
    rw [hname, hgiven]
    exact hv

theorem misshapen_text {s : String} : Misshapen (.text s) ↔ "type".toList <:+: s.toList := by
  refine ⟨fun h => ?_, .text⟩
  cases h with
  | bare hbare => cases hbare.2
  | text hword => exact hword

theorem misshapen_list {items : List Value} : Misshapen (.list items) ↔ .text "type" ∈ items := by
  refine ⟨fun h => ?_, .list⟩
  cases h with
  | bare hbare => cases hbare.1
  | list hword => exact hword

/-- A record is misshapen if it gives a kind and building the operation stops at a value that does
not fit its use. -/
theorem misshapen_record {fields : List (String × Value)} :
    Misshapen (.record fields) ↔ ∃ kind, fields.lookup "type" = some kind ∧
      StopsAtShape (create kind (withoutType fields)) := by
  have hkind : (withoutType fields).lookup "kind" = fields.lookup "kind" :=
    lookup_withoutType fields (by decide)
  have hself : (withoutType fields).lookup "self" = fields.lookup "self" :=
    lookup_withoutType fields (by decide)
  have hcolumns : (withoutType fields).lookup "columns" = fields.lookup "columns" :=
    lookup_withoutType fields (by decide)
  simp only [stopsAtShape_create, stopsAtShape_construct, hkind, hself]
  constructor
  · intro h
    cases h with
    | bare hbare => cases hbare.1
    | kind htype hfield => exact ⟨_, htype, .inl hfield⟩
    | key htype hkey => exact ⟨_, htype, .inr (.inl hkey)⟩
    | self htype hfield => exact ⟨_, htype, .inr (.inr ⟨_, rfl, .inl hfield⟩)⟩
    | columns htype hfields hgiven hv =>
      have hnone := (exists_isNoColumns_iff hfields).mpr ⟨_, hcolumns.trans hgiven, hv⟩
      exact ⟨_, htype, .inr (.inr ⟨_, rfl, .inr ⟨hfields, hnone⟩⟩)⟩
  · rintro ⟨kind, htype, hfield | hkey | ⟨k, rfl, hfield | ⟨hfields, hnone⟩⟩⟩
    · exact .kind htype hfield
    · exact .key htype hkey
    · exact .self htype hfield
    · obtain ⟨v, hgiven, hv⟩ := (exists_isNoColumns_iff hfields).mp hnone
      exact .columns htype hfields (hcolumns.symm.trans hgiven) hv

/-- Reading an operation stops at a value that does not fit its use if its written form is
misshapen. -/
theorem stopsAtShape_ofValue {v : Value} : StopsAtShape (ofValue v) ↔ Misshapen v := by
  cases v
  case record fields =>
    rw [ofValue, misshapen_record]
    cases fields.lookup "type" with
    | none => simp [not_stopsAtShape_operation]
    | some kind => simp
  case list items =>
    have hword : items.any (Value.equal (.text "type")) = true ↔ .text "type" ∈ items := by
      simp [Value.equal_text_left]
    rw [ofValue, misshapen_list, ← hword]
    exact stopsAtShape_ite
  case text s =>
    rw [ofValue, misshapen_text, ← Text.occursIn_iff]
    exact stopsAtShape_ite
  all_goals exact iff_of_true (stopsAtShape_shape _) (.bare ⟨rfl, rfl⟩)

/-- What cannot be read as an operation has a fault or is misshapen. -/
theorem inReading_ofValue {v : Value} {failure : Failure} (h : ofValue v = .error failure) :
    failure.InReading := by
  unfold ofValue at h
  repeat' split at h
  case h_2 => exact inReading_create h
  all_goals cases h
  all_goals constructor

end Operation

end MigrationSafety
