import MigrationSafety.Proofs.Loader.Document
import MigrationSafety.Proofs.Operation.Record

/-!
# Plans that are read back

A plan in its written form is read back as the plan that was written, and so is a document with the
JSON of a plan. This holds of every plan whose operations were made by their constructors, which are
those that can be read in the first place.

* `Plan.IsBuilt`, `Plan.isBuilt_of_loadDocument`: plans that constructors make;
* `Migration.ofValue_record`, `Plan.ofValue_record`: they are read back from their records;
* `loadDocument_record`: they are read back from documents;
* `reads_back`: all of this, and that what is read is equal to what was written.
-/

namespace MigrationSafety

/-- A migration whose operations are made by their constructors. The constructor of migrations
refuses flags that are none, which this type does not hold. -/
def Migration.IsBuilt (m : Migration) : Prop :=
  ∀ op ∈ m.operations, op.IsBuilt

/-- A plan whose migrations are made by their constructors. -/
def Plan.IsBuilt (p : Plan) : Prop :=
  ∀ m ∈ p.migrations, m.IsBuilt

/-- Items that are each read back from their written form are read back together. -/
theorem mapM_written {α : Type} {read : Value → Outcome α} {write : α → Value} {as : List α}
    (h : ∀ a ∈ as, read (write a) = .ok a) : (as.map write).mapM read = .ok as := by
  rw [mapM_eq_ok, List.forall₂_map_left_iff]
  exact List.forall₂_same.mpr h

/-! ## Written forms -/

/-- A migration is read back from its record. -/
theorem Migration.ofValue_record {m : Migration} (hbuilt : m.IsBuilt) :
    Migration.ofValue m.record = .ok m := by
  have hoperations : (m.operations.map Operation.record).mapM Operation.ofValue =
      .ok m.operations :=
    mapM_written fun op hop => Operation.ofValue_record (hbuilt op hop)
  rw [record, ofValue_named rfl]
  exact bind_eq_ok.mpr ⟨_, rfl, bind_eq_ok.mpr ⟨m.operations, hoperations, rfl⟩⟩

/-- The migrations of a plan are read back from their records. -/
theorem Plan.mapM_record {p : Plan} (hbuilt : p.IsBuilt) :
    (p.migrations.map Migration.record).mapM Migration.ofValue = .ok p.migrations :=
  mapM_written fun m hm => Migration.ofValue_record (hbuilt m hm)

/-- A plan is read back from its record. -/
theorem Plan.ofValue_record {p : Plan} (hbuilt : p.IsBuilt) : Plan.ofValue p.record = .ok p := by
  rw [record, ofValue_migrations]
  exact bind_eq_ok.mpr ⟨p.migrations, Plan.mapM_record hbuilt, rfl⟩

/-- A plan is found in what a document says of it. -/
theorem Plan.ofDocument_record {p : Plan} (hbuilt : p.IsBuilt) (path : String) :
    Plan.ofDocument path p.record = .ok p := by
  have hmigrations : migrationsOf? p.record = some (p.migrations.map Migration.record) := rfl
  have hnamed : (p.migrations.map Migration.record).findIdx? (!·.isNamed) = none := by
    simp [List.findIdx?_eq_none_iff, Migration.record, Value.isNamed, Value.get?]
  rw [Plan.ofDocument, hmigrations]
  simp only [hnamed]
  exact Plan.ofValue_record hbuilt

/-- A plan is read back from a document with its JSON. -/
theorem loadDocument_record {p : Plan} (hbuilt : p.IsBuilt) {disk : Disk} {path : Path}
    {text : String} (hdocument : disk.find path = .ok (.document text.toUTF8))
    (htext : Json.parse text = .ok p.record) : loadDocument disk path = .ok p := by
  have hread : readDocument path.display text.toUTF8 = .ok p.record :=
    readDocument_eq_ok.mpr ⟨text, dif_pos text.isValidUTF8, htext⟩
  rw [loadDocument_eq hdocument, hread]
  exact Plan.ofDocument_record hbuilt path.display

/-! ## What is read -/

theorem Migration.assemble_eq_ok {name : Value} {operations : List Operation}
    {flag : String → Value} {m : Migration} (h : assemble name operations flag = .ok m) :
    m.name = name ∧ m.operations = operations := by
  obtain ⟨_, -, h⟩ := bind_eq_ok.mp h
  obtain ⟨_, -, h⟩ := bind_eq_ok.mp h
  obtain ⟨_, -, h⟩ := bind_eq_ok.mp h
  cases h
  exact ⟨rfl, rfl⟩

/-- What is read as a migration was made by constructors. -/
theorem Migration.isBuilt_of_ofValue {v : Value} {m : Migration}
    (h : Migration.ofValue v = .ok m) : m.IsBuilt := by
  cases v
  case record fields =>
    cases hname : fields.lookup "name" with
    | none =>
      simp only [ofValue, hname] at h
      cases h
    | some name =>
      rw [ofValue_named hname] at h
      obtain ⟨items, -, h⟩ := bind_eq_ok.mp h
      obtain ⟨operations, hread, h⟩ := bind_eq_ok.mp h
      intro op hop
      rw [(assemble_eq_ok (mapError_eq_ok.mp h)).2] at hop
      obtain ⟨item, -, hitem⟩ := exists_of_forall₂ (mapM_eq_ok.mp hread) hop
      exact Operation.isBuilt_of_ofValue hitem
  all_goals cases h

/-- What is read as a plan was made by constructors. -/
theorem Plan.isBuilt_of_ofDocument {path : String} {v : Value} {p : Plan}
    (h : Plan.ofDocument path v = .ok p) : p.IsBuilt := by
  rw [Plan.ofDocument] at h
  repeat' split at h
  · cases h
  · cases h
  · rw [ofValue_migrations] at h
    obtain ⟨migrations, hread, h⟩ := bind_eq_ok.mp h
    cases h
    intro m hm
    obtain ⟨item, -, hitem⟩ := exists_of_forall₂ (mapM_eq_ok.mp hread) hm
    exact Migration.isBuilt_of_ofValue hitem

/-- What is read from a document was made by constructors. -/
theorem Plan.isBuilt_of_loadDocument {disk : Disk} {path : Path} {p : Plan}
    (h : loadDocument disk path = .ok p) : p.IsBuilt := by
  obtain ⟨bytes, -, h⟩ := bind_eq_ok.mp h
  obtain ⟨v, -, h⟩ := bind_eq_ok.mp h
  exact Plan.isBuilt_of_ofDocument h

/-! ## Equality -/

/-- Whether the values in a migration are proper. -/
def Migration.isProper (m : Migration) : Bool :=
  m.name.isProper && m.operations.all Operation.isProper

/-- Whether the values in a plan are proper. -/
def Plan.isProper (p : Plan) : Bool :=
  p.migrations.all Migration.isProper

/-- Items that are each equal to themselves are so side by side. -/
theorem all_zip_self {α : Type} {eq : α → α → Bool} {as : List α} (h : ∀ a ∈ as, eq a a = true) :
    ((as.zip as).all fun (x, y) => eq x y) = true := by
  induction as with
  | nil => rfl
  | cons a as ih =>
    have hrest := ih fun b hb => h b (List.mem_cons_of_mem _ hb)
    rw [List.zip_cons_cons, List.all_cons, hrest, Bool.and_true]
    exact h a List.mem_cons_self

theorem Migration.equal_self {m : Migration} (h : m.isProper = true) : m.equal m = true := by
  rw [isProper, Bool.and_eq_true, List.all_eq_true] at h
  have hoperations := all_zip_self fun op hop => Operation.equal_self (h.2 op hop)
  simp only [equal, Value.equal_self h.1, hoperations, beq_self_eq_true, Bool.and_self]

theorem Plan.equal_self {p : Plan} (h : p.isProper = true) : p.equal p = true := by
  rw [equal, beq_self_eq_true, Bool.true_and]
  exact all_zip_self fun m hm => Migration.equal_self (List.all_eq_true.mp h m hm)

/-- Operations and plans that constructors make are read back from their written forms, and plans
from documents with their JSON. If the values in them are proper, what is read is equal to what was
written, also as the program compares it. -/
theorem reads_back :
    (∀ op : Operation, op.IsBuilt → Operation.ofValue op.record = .ok op ∧
      Operation.ofRecord op.kind op.record = .ok op ∧
      (op.isProper = true → op.equal op = true)) ∧
    ∀ p : Plan, p.IsBuilt → Plan.ofValue p.record = .ok p ∧
      (p.isProper = true → p.equal p = true) ∧
      ∀ (disk : Disk) (path : Path) (text : String),
        disk.find path = .ok (.document text.toUTF8) → Json.parse text = .ok p.record →
          loadDocument disk path = .ok p :=
  ⟨fun _ hbuilt => ⟨Operation.ofValue_record hbuilt, Operation.ofRecord_record hbuilt,
      Operation.equal_self⟩,
    fun _ hbuilt => ⟨Plan.ofValue_record hbuilt, Plan.equal_self,
      fun _ _ _ => loadDocument_record hbuilt⟩⟩

/-! ## A column -/

/-- A plan that removes one column. -/
def oneRemoval : Plan :=
  ⟨[⟨.text "0001_a", [.removeColumn (.text "t") [.text "c"]], false, false, true⟩]⟩

/-- The column is given as a text and settled as a list. -/
theorem isBuilt_oneRemoval : oneRemoval.IsBuilt := by
  have hremoval : Operation.construct .removeColumn ⟨[.text "t"], [("columns", .text "c")]⟩ =
      .ok (.removeColumn (.text "t") [.text "c"]) := rfl
  simp only [oneRemoval, Plan.IsBuilt, Migration.IsBuilt, List.forall_mem_cons]
  exact ⟨⟨⟨_, hremoval⟩, nofun⟩, nofun⟩

/-- The JSON of the plan. -/
def oneRemovalText : String :=
  "\x7b\x22migrations\x22: [\x7b\x22name\x22: \x220001_a\x22,
  \x22disable_ddl_transaction\x22: false, \x22disable_migration_lock\x22: false,
  \x22safety_assured\x22: true, \x22operations\x22:
  [\x7b\x22type\x22: \x22RemoveColumn\x22, \x22table\x22: \x22t\x22,
  \x22columns\x22: [\x22c\x22]\x7d]\x7d]\x7d"

set_option maxRecDepth 2000 in
theorem reads_back_oneRemoval :
    (Operation.ofValue (Operation.removeColumn (.text "t") [.text "c"]).record =
        .ok (.removeColumn (.text "t") [.text "c"])) ∧
      oneRemoval.IsBuilt ∧ oneRemoval.equal oneRemoval = true ∧
      Json.parse oneRemovalText = .ok oneRemoval.record ∧
      loadDocument (Disk.single (.ok (.document oneRemovalText.toUTF8))) (Path.parse "b.json") =
        .ok oneRemoval := by
  obtain ⟨hoperations, hplans⟩ := reads_back
  obtain ⟨-, hequal, hload⟩ := hplans oneRemoval isBuilt_oneRemoval
  have hremoval : (Operation.removeColumn (.text "t") [.text "c"]).IsBuilt :=
    isBuilt_oneRemoval _ List.mem_cons_self _ List.mem_cons_self
  have htext : Json.parse oneRemovalText = .ok oneRemoval.record := by
    simp only [Json.parse, oneRemovalText, String.reduceToList]
    rfl
  exact ⟨(hoperations _ hremoval).1, isBuilt_oneRemoval, hequal rfl, htext,
    hload _ _ _ rfl htext⟩

end MigrationSafety
