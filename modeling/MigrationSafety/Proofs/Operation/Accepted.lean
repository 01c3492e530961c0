import MigrationSafety.Proofs.Operation.Record

/-!
# Which operations are accepted

Building an operation is a row of checks, each of which looks at one thing and the first of which to
find a fault decides. What passes all of them is said here kind by kind and without an order:
which fields are given, what those may hold that have to be given, and what the fields of some kinds
demand of each other.

* `AsWritten`: named fields as plans write them;
* `Kind.Accepts`: the fields of which an operation of a kind can be built;
* `argumentFault?_named`, `settle_named`, `valueFault?_map`, `relationFault?_eq_none`: what each
  check asks for;
* `construct_eq_ok_iff`: the checks together;
* `kind_of_create`: a fault names the kind that was given;
* `created_iff_accepted`: what is built from named fields, and when.
-/

namespace MigrationSafety.Operation

/-! ## Named fields -/

/-- Named fields as plans write them: flags hold anything, column names are null, a text or a list
of texts, and any other field holds null or a text. No field has a name that constructors take for
themselves. -/
structure AsWritten (named : List (String × Value)) : Prop where
  unreserved : ∀ x ∈ named, x.1 ≠ "kind" ∧ x.1 ≠ "self"
  columns : ∀ x ∈ named, x.1 = "columns" → x.2 = .null ∨ (∃ s, x.2 = .text s) ∨
    ∃ items, x.2 = .list items ∧ ∀ w ∈ items, w.isText = true
  plain : ∀ x ∈ named, x.1 ∉ flagNames → x.1 ≠ "columns" → x.2 = .null ∨ ∃ s, x.2 = .text s

/-- Whether a text that is not empty is given under a name. -/
def GivesText (named : List (String × Value)) (name : String) : Prop :=
  ∃ s, named.lookup name = some (.text s) ∧ s ≠ ""

/-- Whether column names are given: a list that is not empty, or one by itself, which counts as a
list of one even if it is empty. -/
def GivesColumns (named : List (String × Value)) : Prop :=
  (∃ s, named.lookup "columns" = some (.text s)) ∨
    ∃ items, named.lookup "columns" = some (.list items) ∧ items ≠ []

/-- What the fields of some kinds demand of each other. -/
@[mk_iff]
structure Kind.Agrees (kind : Kind) (named : List (String × Value)) : Prop where
  /-- A column gets another name. -/
  renamedColumn : kind = .renameColumn → named.lookup "column" ≠ named.lookup "new_name"
  /-- A table gets another name. -/
  renamedTable : kind = .renameTable → named.lookup "table" ≠ named.lookup "new_name"
  /-- An index is known by its name or its columns. -/
  index : kind = .removeIndex → GivesText named "name" ∨ GivesColumns named
  /-- A foreign key is known by the table that it leads to or its name. -/
  foreignKey : kind = .validateForeignKey → GivesText named "to_table" ∨ GivesText named "name"

/-- Whether an operation of a kind can be built of named fields. -/
structure Kind.Accepts (kind : Kind) (named : List (String × Value)) : Prop where
  /-- All fields are fields of the kind. -/
  known : ∀ x ∈ named, ∃ f ∈ kind.fields, f.name = x.1
  /-- A field without a default is given, and is neither null nor empty. -/
  filled : ∀ f ∈ kind.fields, f.default? = none → f.role = .plain → GivesText named f.name
  /-- The same for column names without a default. -/
  columns : Field.columns ∈ kind.fields → GivesColumns named
  flags : ∀ f ∈ kind.fields, f.role = .flag → ∀ v, named.lookup f.name = some v →
    ∃ b, v = .flag b
  agrees : kind.Agrees named

/-- What a field holds for a value that it is given: column names are a list, in which a single one
stands alone. -/
def Field.held (f : Field) (v : Value) : Value :=
  if f.role = .columns then
    match v with
    | .text s => .list [.text s]
    | .null => .list []
    | v => v
  else v

/-- Whether the fields of an operation hold what they are given, and their defaults if they are
given nothing. -/
def Holds (op : Operation) (named : List (String × Value)) : Prop :=
  ∀ x ∈ op.assignments,
    match named.lookup x.1.name with
    | some v => x.2 = x.1.held v
    | none => x.1.default? = some x.2

/-- The value that a field gets from named fields. -/
def Field.valueFrom (f : Field) (named : List (String × Value)) : Value :=
  f.held ((named.lookup f.name).getD (f.default?.getD .null))

section
variable {named : List (String × Value)} {kind : Kind} {f : Field}

theorem held_of_ne_columns (h : f.role ≠ .columns) (v : Value) : f.held v = v := by
  simp only [Field.held, h, if_false]

theorem valueFrom_of_lookup {v : Value} (h : named.lookup f.name = some v) :
    f.valueFrom named = f.held v := by
  rw [Field.valueFrom, h, Option.getD_some]

/-! ## The kinds of fields -/

/-- The forms of the fields that kinds have. Only flags have the name of a flag, and only column
names the name for them. -/
theorem field_forms (hf : f ∈ kind.fields) :
    (f.name ∉ flagNames ∧ f.name ≠ "columns" ∧ (f = .required f.name ∨ f = .optional f.name)) ∨
      f = .columns ∨ f = .optionalColumns ∨ f.name ∈ flagNames ∧ ∃ b, f = .flag f.name b := by
  have hall : ∀ f ∈ kind.fields,
      (f.name ∉ flagNames ∧ f.name ≠ "columns" ∧ (f = .required f.name ∨ f = .optional f.name)) ∨
        f = .columns ∨ f = .optionalColumns ∨ f.name ∈ flagNames ∧ ∃ b, f = .flag f.name b := by
    cases kind <;> simp [Kind.fields, Field.required, Field.optional, Field.columns,
      Field.optionalColumns, Field.flag, flagNames]
  exact hall f hf

theorem role_eq_flag_iff (hf : f ∈ kind.fields) : f.role = .flag ↔ f.name ∈ flagNames := by
  rcases field_forms hf with ⟨hname, -, hform | hform⟩ | rfl | rfl | ⟨hname, b, hform⟩
  · exact iff_of_false (by rw [hform]; nofun) hname
  · exact iff_of_false (by rw [hform]; nofun) hname
  · exact iff_of_false nofun (by decide)
  · exact iff_of_false nofun (by decide)
  · exact iff_of_true (by rw [hform]; rfl) hname

/-- A field without a default is a plain one or holds column names. -/
theorem plain_or_columns (hf : f ∈ kind.fields) (hrequired : f.default? = none) :
    f.role = .plain ∨ f = .columns := by
  rcases field_forms hf with ⟨-, -, hform | hform⟩ | rfl | rfl | ⟨-, b, hform⟩
  · exact .inl (by rw [hform]; rfl)
  · exact .inl (by rw [hform]; rfl)
  · exact .inr rfl
  · cases hrequired
  · rw [hform] at hrequired
    cases hrequired

theorem default?_flag (hf : f ∈ kind.fields) (hrole : f.role = .flag) :
    ∃ b, f.default? = some (.flag b) := by
  rcases field_forms hf with ⟨hname, -⟩ | rfl | rfl | ⟨-, b, hform⟩
  · exact absurd ((role_eq_flag_iff hf).mp hrole) hname
  · cases hrole
  · cases hrole
  · exact ⟨b, by rw [hform]; rfl⟩

theorem AsWritten.lookup_reserved (h : AsWritten named) {name : String}
    (hname : name = "kind" ∨ name = "self") : named.lookup name = none := by
  refine List.lookup_eq_none_iff.mpr fun x hx => bne_iff_ne.mpr ?_
  rcases hname with rfl | rfl
  · exact (h.unreserved x hx).1.symm
  · exact (h.unreserved x hx).2.symm

/-- A plain field that is given holds null or a text. -/
theorem AsWritten.plain_of_lookup (h : AsWritten named) (hf : f ∈ kind.fields)
    (hrole : f.role = .plain) {v : Value} (hv : named.lookup f.name = some v) :
    v = .null ∨ ∃ s, v = .text s := by
  refine h.plain (f.name, v) (mem_of_lookup hv) ?_ ?_
  · rw [← role_eq_flag_iff hf, hrole]
    decide
  · rw [ne_eq, ← role_eq_columns_iff hf, hrole]
    decide

/-! ## The choice of fields -/

theorem nameFault?_eq_none {name : String} :
    nameFault? kind [] name = none ↔ ∃ f ∈ kind.fields, f.name = name := by
  simp only [nameFault?, List.contains_nil, Bool.false_eq_true, if_false, List.contains_iff_mem,
    List.mem_map]
  split
  · exact iff_of_true rfl ‹_›
  · split <;> exact iff_of_false (Option.some_ne_none _) ‹_›

/-- The choice of fields has no fault if the kind has all of them and none is missing. -/
theorem argumentFault?_named : argumentFault? kind ⟨[], named⟩ = none ↔
    (∀ x ∈ named, ∃ f ∈ kind.fields, f.name = x.1) ∧
      ∀ f ∈ kind.fields, f.default? = none → (named.lookup f.name).isSome = true := by
  rw [argumentFault?]
  simp only [List.length_nil, Nat.not_lt_zero, if_false, List.take_zero, List.map_nil]
  split
  · rename_i hfault
    refine iff_of_false (Option.some_ne_none _) fun h => ?_
    obtain ⟨x, hx, hname⟩ := List.exists_of_findSome?_eq_some hfault
    rw [nameFault?_eq_none.mpr (h.1 x hx)] at hname
    cases hname
  · rename_i hnone
    rw [and_iff_right fun x hx => nameFault?_eq_none.mp (List.findSome?_eq_none_iff.mp hnone x hx)]
    simp [List.find?_eq_none]

/-! ## The values of fields -/

/-- Column names as plans write them are settled into what the field holds. -/
theorem settled_held {v : Value} (h : f.role = .columns → v = .null ∨ (∃ s, v = .text s) ∨
    ∃ items, v = .list items) : settled (f, v) = .ok (f, f.held v) := by
  by_cases hrole : f.role = .columns
  · simp only [settled, Field.held, hrole, if_true]
    rcases h hrole with rfl | ⟨s, rfl⟩ | ⟨items, rfl⟩ <;> rfl
  · simp only [settled, Field.held, hrole, if_false]

/-- Fields as plans write them are settled. -/
theorem settle_named (h : AsWritten named) (kind : Kind) :
    settle (bind kind.fields ⟨[], named⟩) =
      .ok (kind.fields.map fun f => (f, f.valueFrom named)) := by
  rw [settle_eq_mapM, bind_named, mapM_eq_ok, List.forall₂_map_left_iff,
    List.forall₂_map_right_iff, List.forall₂_same]
  refine fun f hf => settled_held fun hrole => ?_
  cases hv : named.lookup f.name with
  | some v =>
    rw [(role_eq_columns_iff hf).mp hrole] at hv
    exact (h.columns _ (mem_of_lookup hv) rfl).imp_right
      (.imp_right fun ⟨items, hitems, _⟩ => ⟨items, hitems⟩)
  | none =>
    rcases field_cases hf with ⟨hplain, -⟩ | rfl | rfl | ⟨hflag, -⟩
    · cases hplain.symm.trans hrole
    · exact .inl rfl
    · exact .inr (.inr ⟨[], rfl⟩)
    · cases hflag.symm.trans hrole

/-- The values of fields have no fault if no field is blank that has to be given and flags are
flags. -/
theorem valueFault?_map {value : Field → Value} :
    valueFault? kind (kind.fields.map fun f => (f, value f)) = none ↔
      (∀ f ∈ kind.fields, f.default? = none → isBlankValue f (value f) = false) ∧
        ∀ f ∈ kind.fields, f.role = .flag → ∃ b, value f = .flag b := by
  have hfields : (kind.fields.map fun f => (f, value f)).map Prod.fst = kind.fields := by
    rw [List.map_map]
    exact List.map_id _
  constructor
  · intro h
    refine ⟨fun f hf hrequired => ?_, fun f hf hrole =>
      flag_of_valueFault? hfields h (List.mem_map_of_mem hf) hrole⟩
    rw [valueFault?] at h
    split at h
    · cases h
    · rename_i hblank
      simpa [hrequired] using List.find?_eq_none.mp hblank _ (List.mem_map_of_mem hf)
  · rintro ⟨hblank, hflags⟩
    rw [valueFault?]
    split
    · rename_i hfound
      obtain ⟨f, hf, heq⟩ := List.mem_map.mp (List.mem_of_find?_eq_some hfound)
      obtain ⟨rfl, rfl⟩ := Prod.mk.inj heq
      have hrequired := List.find?_some hfound
      simp only [Bool.and_eq_true, Option.isNone_iff_eq_none] at hrequired
      rw [hblank f hf hrequired.1] at hrequired
      cases hrequired.2
    · refine List.findSome?_eq_none_iff.mpr fun name hname => ?_
      split
      · rfl
      · rfl
      · rename_i v hflag hfound
        obtain ⟨f, hf, heq⟩ := List.mem_map.mp (List.mem_of_find?_eq_some hfound)
        obtain ⟨rfl, rfl⟩ := Prod.mk.inj heq
        have hfname : f.name = name := by simpa using List.find?_some hfound
        obtain ⟨b, hb⟩ := hflags f hf ((role_eq_flag_iff hf).mpr (hfname ▸ hname))
        exact absurd hb (hflag _)

/-- A plain field that has to be given is not blank if it is given a text that is not empty. -/
theorem isBlankValue_plain (h : AsWritten named) (hf : f ∈ kind.fields) (hrole : f.role = .plain)
    (hrequired : f.default? = none) :
    isBlankValue f (f.valueFrom named) = false ↔ GivesText named f.name := by
  rw [Field.valueFrom, held_of_ne_columns (by rw [hrole]; decide), hrequired, GivesText]
  cases hv : named.lookup f.name with
  | none => simp [isBlankValue]
  | some v => rcases h.plain_of_lookup hf hrole hv with rfl | ⟨s, rfl⟩ <;> simp [isBlankValue]

/-- Column names that have to be given are not blank if they are given. -/
theorem isBlankValue_columns (h : AsWritten named) :
    isBlankValue .columns (Field.columns.valueFrom named) = false ↔ GivesColumns named := by
  have hname : Field.columns.name = "columns" := rfl
  rw [Field.valueFrom, hname, GivesColumns]
  cases hv : named.lookup "columns" with
  | none => simp [Field.held, Field.columns, isBlankValue]
  | some v =>
    rcases h.columns _ (mem_of_lookup hv) rfl with rfl | ⟨s, rfl⟩ | ⟨items, rfl, -⟩ <;>
      simp [Field.held, Field.columns, isBlankValue]

/-- Plain fields hold what they are given. -/
theorem valueFrom_eq_text (hrole : f.role = .plain) {s : String}
    (h : named.lookup f.name = some (.text s)) : f.valueFrom named = .text s := by
  rw [valueFrom_of_lookup h, held_of_ne_columns (by rw [hrole]; decide)]

/-! ## What fields demand of each other -/

theorem equal_required {name name' : String} (h : GivesText named name)
    (h' : GivesText named name') :
    ((Field.required name).valueFrom named).equal ((Field.required name').valueFrom named) = true ↔
      named.lookup name = named.lookup name' := by
  obtain ⟨s, hs, -⟩ := h
  obtain ⟨t, ht, -⟩ := h'
  have hold : (Field.required name).valueFrom named = .text s := valueFrom_eq_text rfl hs
  have hnew : (Field.required name').valueFrom named = .text t := valueFrom_eq_text rfl ht
  rw [hold, hnew, Value.equal_text, beq_iff_eq, hs, ht, Option.some.injEq, Value.text.injEq]

/-- A plain field that may be left out counts as present if it is given a text that is not empty. -/
theorem truthy_optional (h : AsWritten named) {name : String} (hf : .optional name ∈ kind.fields) :
    ((Field.optional name).valueFrom named).truthy = true ↔ GivesText named name := by
  have hplain : (Field.optional name).role ≠ .columns := nofun
  rw [Field.valueFrom, held_of_ne_columns hplain, GivesText]
  show ((named.lookup name).getD .null).truthy = true ↔ _
  cases hv : named.lookup name with
  | none => simp [Value.truthy]
  | some v =>
    rcases h.plain_of_lookup hf rfl hv with rfl | ⟨s, rfl⟩ <;> simp [Value.truthy]

/-- Column names that may be left out are some if they are given. -/
theorem isEmpty_optionalColumns (h : AsWritten named) {items : List Value}
    (hitems : .list items = Field.optionalColumns.valueFrom named) :
    items.isEmpty = false ↔ GivesColumns named := by
  have hname : Field.optionalColumns.name = "columns" := rfl
  rw [Field.valueFrom, hname] at hitems
  rw [GivesColumns]
  cases hv : named.lookup "columns" with
  | none => simp_all [Field.held, Field.optionalColumns]
  | some v =>
    rcases h.columns _ (mem_of_lookup hv) rfl with rfl | ⟨s, rfl⟩ | ⟨items', rfl, -⟩ <;>
      simp_all [Field.held, Field.optionalColumns]

/-- The fields of an operation have no fault with each other if they agree. -/
theorem relationFault?_eq_none (h : AsWritten named) {op : Operation}
    (hvalues : op.values = op.kind.fields.map (·.valueFrom named))
    (hfilled : ∀ f ∈ op.kind.fields, f.default? = none → f.role = .plain →
      GivesText named f.name) : relationFault? op = none ↔ op.kind.Agrees named := by
  rw [Kind.agrees_iff]
  cases op
  case renameColumn table column newName =>
    simp only [values, kind, Kind.fields, List.map_cons, List.map_nil, List.cons.injEq,
      and_true] at hvalues
    obtain ⟨-, rfl, rfl⟩ := hvalues
    have hold : GivesText named "column" := hfilled _ (.tail _ (.head _)) rfl rfl
    have hnew : GivesText named "new_name" := hfilled _ (.tail _ (.tail _ (.head _))) rfl rfl
    simp [relationFault?, kind, -Bool.not_eq_true, equal_required hold hnew]
  case renameTable table newName =>
    simp only [values, kind, Kind.fields, List.map_cons, List.map_nil, List.cons.injEq,
      and_true] at hvalues
    obtain ⟨rfl, rfl⟩ := hvalues
    have hold : GivesText named "table" := hfilled _ (.head _) rfl rfl
    have hnew : GivesText named "new_name" := hfilled _ (.tail _ (.head _)) rfl rfl
    simp [relationFault?, kind, -Bool.not_eq_true, equal_required hold hnew]
  case removeIndex table name columns concurrently =>
    simp only [values, kind, Kind.fields, List.map_cons, List.map_nil, List.cons.injEq,
      and_true] at hvalues
    obtain ⟨-, rfl, hcolumns, -⟩ := hvalues
    have hfield : .optional "name" ∈ Kind.removeIndex.fields := .tail _ (.head _)
    have hname := truthy_optional h hfield
    have hsome := isEmpty_optionalColumns h hcolumns
    simp [relationFault?, kind, ← hname, ← hsome, imp_iff_not_or]
  case validateForeignKey table toTable name =>
    simp only [values, kind, Kind.fields, List.map_cons, List.map_nil, List.cons.injEq,
      and_true] at hvalues
    obtain ⟨-, rfl, rfl⟩ := hvalues
    have htableField : .optional "to_table" ∈ Kind.validateForeignKey.fields := .tail _ (.head _)
    have hnameField : .optional "name" ∈ Kind.validateForeignKey.fields :=
      .tail _ (.tail _ (.head _))
    have htable := truthy_optional h htableField
    have hname := truthy_optional h hnameField
    simp [relationFault?, kind, ← hname, ← htable, imp_iff_not_or]
  all_goals simp [relationFault?, kind]

/-! ## All checks -/

/-- A field without a default is given. -/
theorem Kind.Accepts.exists_lookup (h : kind.Accepts named) (hf : f ∈ kind.fields)
    (hrequired : f.default? = none) : ∃ v, named.lookup f.name = some v := by
  rcases plain_or_columns hf hrequired with hrole | rfl
  · obtain ⟨s, hs, -⟩ := h.filled f hf hrequired hrole
    exact ⟨_, hs⟩
  · rcases h.columns hf with ⟨s, hs⟩ | ⟨items, hitems, -⟩
    · exact ⟨_, hs⟩
    · exact ⟨_, hitems⟩

/-- The values of fields as plans write them have no fault if the fields that have to be given are
filled and flags are flags. -/
theorem valueFault?_named (h : AsWritten named) :
    valueFault? kind (kind.fields.map fun f => (f, f.valueFrom named)) = none ↔
      (∀ f ∈ kind.fields, f.default? = none → f.role = .plain → GivesText named f.name) ∧
        (Field.columns ∈ kind.fields → GivesColumns named) ∧
        ∀ f ∈ kind.fields, f.role = .flag → ∀ v, named.lookup f.name = some v →
          ∃ b, v = .flag b := by
  have hblank :
      (∀ f ∈ kind.fields, f.default? = none → isBlankValue f (f.valueFrom named) = false) ↔
      (∀ f ∈ kind.fields, f.default? = none → f.role = .plain → GivesText named f.name) ∧
        (Field.columns ∈ kind.fields → GivesColumns named) := by
    constructor
    · intro hfilled
      exact ⟨fun f hf hrequired hrole =>
          (isBlankValue_plain h hf hrole hrequired).mp (hfilled f hf hrequired),
        fun hf => (isBlankValue_columns h).mp (hfilled _ hf rfl)⟩
    · rintro ⟨hplain, hcolumns⟩ f hf hrequired
      rcases plain_or_columns hf hrequired with hrole | rfl
      · exact (isBlankValue_plain h hf hrole hrequired).mpr (hplain f hf hrequired hrole)
      · exact (isBlankValue_columns h).mpr (hcolumns hf)
  have hflag (f : Field) (hf : f ∈ kind.fields) (hrole : f.role = .flag) :
      (∃ b, f.valueFrom named = .flag b) ↔
        ∀ v, named.lookup f.name = some v → ∃ b, v = .flag b := by
    obtain ⟨b, hb⟩ := default?_flag hf hrole
    rw [Field.valueFrom, held_of_ne_columns (by rw [hrole]; decide), hb]
    cases named.lookup f.name <;> simp
  rw [valueFault?_map, hblank, and_assoc]
  refine and_congr_right' (and_congr_right' ?_)
  exact forall₂_congr fun f hf => forall_congr' (hflag f hf)

/-- An operation is built of the fields that its kind accepts, and has the values that they give. -/
theorem construct_eq_ok_iff (h : AsWritten named) {op : Operation} :
    construct kind ⟨[], named⟩ = .ok op ↔
      kind.Accepts named ∧ op.kind = kind ∧ op.values = kind.fields.map (·.valueFrom named) := by
  have hself : named.lookup "self" = none := h.lookup_reserved (.inr rfl)
  have hvalues : (kind.fields.map fun f => (f, f.valueFrom named)).map (·.2) =
      kind.fields.map (·.valueFrom named) := by
    rw [List.map_map]
    rfl
  rw [construct_eq_ok, settle_named h]
  simp only [Except.ok.injEq, exists_eq_left', hself, true_and, argumentFault?_named,
    valueFault?_named h, hvalues, ofValues?_eq_some]
  constructor
  · rintro ⟨⟨hknown, -⟩, ⟨hfilled, hcolumns, hflags⟩, ⟨rfl, hop⟩, hrelation⟩
    exact ⟨⟨hknown, hfilled, hcolumns, hflags, (relationFault?_eq_none h hop hfilled).mp hrelation⟩,
      rfl, hop⟩
  · rintro ⟨haccepts, rfl, hop⟩
    exact ⟨⟨haccepts.known, fun f hf hrequired =>
        Option.isSome_iff_exists.mpr (haccepts.exists_lookup hf hrequired)⟩,
      ⟨haccepts.filled, haccepts.columns, haccepts.flags⟩, ⟨rfl, hop⟩,
      (relationFault?_eq_none h hop haccepts.filled).mpr haccepts.agrees⟩

/-- The fields that a kind accepts make an operation. -/
theorem exists_construct (h : AsWritten named) (haccepts : kind.Accepts named) :
    ∃ op, construct kind ⟨[], named⟩ = .ok op := by
  have hsettle := settle_named h kind
  have hfault := (valueFault?_named h).mpr ⟨haccepts.filled, haccepts.columns, haccepts.flags⟩
  obtain ⟨op, hop⟩ := Option.isSome_iff_exists.mp
    (isSome_ofValues? (fits_of_settle hsettle hfault))
  obtain ⟨hkind, hvalues⟩ := ofValues?_eq_some.mp hop
  rw [List.map_map] at hvalues
  exact ⟨op, (construct_eq_ok_iff h).mpr ⟨haccepts, hkind, hvalues⟩⟩

/-- A field holds its default as it is. -/
theorem held_default (hf : f ∈ kind.fields) {v : Value} (hdefault : f.default? = some v) :
    f.held v = v := by
  rcases field_cases hf with ⟨hrole, -⟩ | rfl | rfl | ⟨hrole, -⟩
  · exact held_of_ne_columns (by rw [hrole]; decide) v
  · cases hdefault
  · cases hdefault
    rfl
  · exact held_of_ne_columns (by rw [hrole]; decide) v

/-- An operation of accepted fields holds what they are given, and the defaults of the others. -/
theorem holds_of_values {op : Operation} (haccepts : op.kind.Accepts named)
    (hvalues : op.values = op.kind.fields.map (·.valueFrom named)) : op.Holds named := by
  have hassignments : op.assignments = op.kind.fields.map fun f => (f, f.valueFrom named) := by
    refine (List.zip_of_prod ?_ ?_).symm
    · rw [List.map_map]
      exact List.map_id _
    · rw [List.map_map, hvalues]
      rfl
  intro x hx
  rw [hassignments] at hx
  obtain ⟨f, hf, rfl⟩ := List.mem_map.mp hx
  simp only
  cases hv : named.lookup f.name with
  | some v => exact valueFrom_of_lookup hv
  | none =>
    cases hdefault : f.default? with
    | none =>
      obtain ⟨v, hgiven⟩ := haccepts.exists_lookup hf hdefault
      cases hv.symm.trans hgiven
    | some d =>
      simp only [Field.valueFrom, hv, hdefault, Option.getD_none, Option.getD_some,
        held_default hf hdefault]

/-! ## Faults -/

theorem kind_of_nameFault? {placed : List String} {name : String} {fault : OperationFault}
    (h : nameFault? kind placed name = some fault) : fault.kind = .text kind.name := by
  unfold nameFault? at h
  repeat' split at h
  all_goals cases h
  all_goals rfl

theorem kind_of_argumentFault? {args : Arguments} {fault : OperationFault}
    (h : argumentFault? kind args = some fault) : fault.kind = .text kind.name := by
  simp only [argumentFault?] at h
  split at h
  · cases h
    rfl
  · split at h
    · rename_i hname
      cases h
      obtain ⟨x, -, hx⟩ := List.exists_of_findSome?_eq_some hname
      exact kind_of_nameFault? hx
    · obtain ⟨f, -, rfl⟩ := Option.map_eq_some_iff.mp h
      rfl

theorem kind_of_valueFault? {given : List (Field × Value)} {fault : OperationFault}
    (h : valueFault? kind given = some fault) : fault.kind = .text kind.name := by
  rw [valueFault?] at h
  split at h
  · cases h
    rfl
  · obtain ⟨name, -, hname⟩ := List.exists_of_findSome?_eq_some h
    split at hname <;> cases hname
    rfl

theorem kind_of_relationFault? {op : Operation} {fault : OperationFault}
    (h : relationFault? op = some fault) : fault.kind = .text op.kind.name := by
  unfold relationFault? at h
  repeat' split at h
  all_goals cases h
  all_goals rfl

theorem kind_of_construct {args : Arguments} {fault : OperationFault}
    (h : construct kind args = .error (.operation fault)) : fault.kind = .text kind.name := by
  unfold construct at h
  repeat' split at h
  all_goals cases h
  case h_1 hfault => exact kind_of_argumentFault? hfault
  case h_1 hfault => exact kind_of_valueFault? hfault
  case h_1 hvalues _ hfault =>
    rw [← (ofValues?_eq_some.mp hvalues).1]
    exact kind_of_relationFault? hfault

/-! ## Kinds given by name -/

/-- A text gives a kind if it is the name of one. -/
theorem create_text (h : AsWritten named) (s : String) :
    create (.text s) named =
      match Kind.ofName? s with
      | some k => construct k ⟨[], named⟩
      | none => .error (.operation (.unknownKind (.text s))) := by
  have hkind : named.lookup "kind" = none := h.lookup_reserved (.inl rfl)
  rw [create, hkind]
  rfl

/-- Nothing that plans write stops a constructor other than a fault of the operation. -/
theorem not_stopsAtShape_create (h : AsWritten named) (s : String) :
    ¬StopsAtShape (create (.text s) named) := by
  have hself : named.lookup "self" = none := h.lookup_reserved (.inr rfl)
  rw [create_text h]
  cases Kind.ofName? s with
  | none => exact not_stopsAtShape_operation _
  | some k =>
    rw [stopsAtShape_construct, ← settle_eq_error, settle_named h, hself]
    simp

/-- A fault in building an operation names the kind that was given. -/
theorem kind_of_create (h : AsWritten named) {s : String} {failure : Failure}
    (hfailure : create (.text s) named = .error failure) :
    ∃ fault, failure = .operation fault ∧ fault.kind = .text s := by
  cases inReading_create hfailure with
  | shape fault => exact absurd ⟨fault, hfailure⟩ (not_stopsAtShape_create h s)
  | operation fault =>
    refine ⟨fault, rfl, ?_⟩
    rw [create_text h] at hfailure
    cases hk : Kind.ofName? s with
    | none =>
      rw [hk] at hfailure
      cases hfailure
      rfl
    | some k =>
      rw [hk] at hfailure
      rw [Kind.ofName?_eq_some.mp hk]
      exact kind_of_construct hfailure

end

/-- The fields of an index to be dropped: its only column stands by itself, and its name is
empty. -/
def droppedIndex : List (String × Value) :=
  [("table", .text "users"), ("columns", .text "email"), ("name", .text ""),
    ("concurrently", .flag true)]

end MigrationSafety.Operation
