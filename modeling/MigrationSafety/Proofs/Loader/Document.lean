import MigrationSafety.Loader.Document
import MigrationSafety.Proofs.Operation.Create

/-!
# Documents that cannot be read

Reading a plan from a document may fail with the failures that loading foresees: the document does
not hold a plan, or an operation is malformed. But some documents are read up to a value that does
not fit the use that is made of it, and then reading stops with a failure that nobody foresees.

* `Migration.Misshapen`, `Migration.stopsAtShape_ofValue`: migrations that do not fit;
* `Failure.IsLoading`: the failures that loading foresees;
* `Misread`, `unforeseen_loadDocument`: documents of which reading stops with any other failure;
* `isReported_of_loadDocument`: such a failure is not reported.
-/

namespace MigrationSafety

/-! ## Migrations -/

/-- The fields of a named migration that does not fit the use that is made of it. -/
inductive Migration.Misshapen (fields : List (String × Value)) : Prop
  /-- The operations are null, a flag or a number. -/
  | operations {v : Value} (hgiven : fields.lookup "operations" = some v) (hbare : v.IsBare)
  /-- The first operation that cannot be read is misshapen. -/
  | operation {items before after : List Value} {v : Value}
      (hitems : ((fields.lookup "operations").getD (.list [])).items = .ok items)
      (hsplit : items = before ++ v :: after)
      (hbefore : ∀ u ∈ before, ∃ op, Operation.ofValue u = .ok op)
      (hv : Operation.Misshapen v)

theorem items_eq_error {v : Value} : (∃ fault, v.items = .error fault) ↔ v.IsBare := by
  cases v <;> simp [Value.items, Value.IsBare, Value.isScalar, Value.isText]

namespace Migration

variable {fields : List (String × Value)} {name : Value}

/-- The parts of reading a named migration. -/
theorem ofValue_named (hname : fields.lookup "name" = some name) :
    ofValue (.record fields) =
      (((fields.lookup "operations").getD (.list [])).items.mapError .shape >>= fun items =>
        items.mapM Operation.ofValue >>= fun ops =>
          (assemble name ops (flagsOf fields)).mapError .operation) := by
  simp only [ofValue, hname]

/-- Reading a named migration stops at a value that does not fit its use if it is misshapen. -/
theorem stopsAtShape_ofValue (hname : fields.lookup "name" = some name) :
    StopsAtShape (ofValue (.record fields)) ↔ Misshapen fields := by
  rw [ofValue_named hname]
  simp only [stopsAtShape_bind, stopsAtShape_mapError_shape, items_eq_error, mapError_eq_ok,
    stopsAtShape_mapM, Operation.stopsAtShape_ofValue, not_stopsAtShape_mapError_operation,
    and_false, exists_false, or_false]
  constructor
  · rintro (hbare | ⟨items, hitems, before, v, after, hsplit, hbefore, hv⟩)
    · cases hgiven : fields.lookup "operations" with
      | none =>
        rw [hgiven] at hbare
        exact absurd hbare.1 (by simp [Value.isScalar])
      | some v =>
        rw [hgiven] at hbare
        exact .operations hgiven hbare
    · exact .operation hitems hsplit hbefore hv
  · intro h
    cases h with
    | operations hgiven hbare =>
      rw [hgiven]
      exact .inl hbare
    | operation hitems hsplit hbefore hv =>
      exact .inr ⟨_, hitems, _, _, _, hsplit, hbefore, hv⟩

/-- What cannot be read as a migration is malformed or misshapen. -/
theorem inReading_ofValue {v : Value} {failure : Failure} (h : ofValue v = .error failure) :
    failure.InReading := by
  cases v
  case record fields =>
    cases hname : fields.lookup "name" with
    | none =>
      simp only [ofValue, hname] at h
      cases h
      exact .shape _
    | some name =>
      rw [ofValue_named hname] at h
      rcases bind_eq_error.mp h with h | ⟨items, -, h⟩
      · obtain ⟨fault, -, rfl⟩ := mapError_eq_error.mp h
        exact .shape fault
      · rcases bind_eq_error.mp h with h | ⟨ops, -, h⟩
        · obtain ⟨_, v, _, -, -, hv⟩ := mapM_eq_error.mp h
          exact Operation.inReading_ofValue hv
        · obtain ⟨fault, -, rfl⟩ := mapError_eq_error.mp h
          exact .operation fault
  all_goals
    cases h
    exact .shape _

end Migration

/-! ## Documents -/

/-- A failure that loading foresees: no plan is found, or an operation is malformed. -/
inductive Failure.IsLoading : Failure → Prop
  | loading (path : String) (fault : LoadFault) : IsLoading (.loading path fault)
  | operation (fault : OperationFault) : IsLoading (.operation fault)

/-- A document of which reading stops with a failure that is not foreseen. -/
inductive Misread (bytes : ByteArray) : Prop
  /-- The bytes are no text. -/
  | undecodable (hbytes : String.fromUTF8? bytes = none)
  /-- An integer has too many digits. -/
  | number {text : String} {digits : Nat} (hbytes : String.fromUTF8? bytes = some text)
      (hparse : Json.parse text = .error (.integerTooLong digits))
  /-- All migrations have names, and the first one that cannot be read is misshapen. -/
  | migration {text : String} {v : Value} {migrations before after : List Value}
      {fields : List (String × Value)} (hbytes : String.fromUTF8? bytes = some text)
      (hparse : Json.parse text = .ok v) (hmigrations : migrationsOf? v = some migrations)
      (hnamed : ∀ m ∈ migrations, m.isNamed = true)
      (hsplit : migrations = before ++ .record fields :: after)
      (hbefore : ∀ u ∈ before, ∃ m, Migration.ofValue u = .ok m)
      (hm : Migration.Misshapen fields)

/-- A computation that stops with a failure that loading does not foresee. -/
def Unforeseen {α : Type} (x : Outcome α) : Prop :=
  ∃ failure, x = .error failure ∧ ¬failure.IsLoading

section
variable {α β : Type}

theorem not_unforeseen_ok (a : α) : ¬Unforeseen (.ok a : Outcome α) := nofun

theorem not_unforeseen_loading (path : String) (fault : LoadFault) :
    ¬Unforeseen (.error (.loading path fault) : Outcome α) := by
  rintro ⟨_, h, hfailure⟩
  cases h
  exact hfailure (.loading path fault)

theorem unforeseen_bind {x : Outcome α} {f : α → Outcome β} :
    Unforeseen (x >>= f) ↔ Unforeseen x ∨ ∃ a, x = .ok a ∧ Unforeseen (f a) := by
  cases x with
  | error failure => simp [Unforeseen, bind_eq_error]
  | ok a => simp [Unforeseen, bind_eq_error]

/-- What reading does not foresee is a value that does not fit its use. -/
theorem unforeseen_iff_stopsAtShape {x : Outcome α}
    (h : ∀ failure, x = .error failure → failure.InReading) : Unforeseen x ↔ StopsAtShape x := by
  constructor
  · rintro ⟨failure, hx, hfailure⟩
    cases h failure hx with
    | operation fault => exact absurd (.operation fault) hfailure
    | shape fault => exact ⟨fault, hx⟩
  · rintro ⟨fault, hx⟩
    exact ⟨_, hx, nofun⟩

end

theorem unforeseen_readDocument {path : String} {bytes : ByteArray} :
    Unforeseen (readDocument path bytes) ↔ String.fromUTF8? bytes = none ∨
      ∃ text digits, String.fromUTF8? bytes = some text ∧
        Json.parse text = .error (.integerTooLong digits) := by
  rw [readDocument]
  cases String.fromUTF8? bytes with
  | none => exact ⟨fun _ => .inl rfl, fun _ => ⟨_, rfl, nofun⟩⟩
  | some text =>
    simp only [reduceCtorEq, false_or, Option.some.injEq, exists_and_left, exists_eq_left']
    cases hparse : Json.parse text with
    | ok v => simp [not_unforeseen_ok]
    | error fault =>
      cases fault with
      | malformed => simp [not_unforeseen_loading]
      | integerTooLong digits => exact ⟨fun _ => ⟨digits, rfl⟩, fun _ => ⟨_, rfl, nofun⟩⟩

theorem readDocument_eq_ok {path : String} {bytes : ByteArray} {v : Value} :
    readDocument path bytes = .ok v ↔
      ∃ text, String.fromUTF8? bytes = some text ∧ Json.parse text = .ok v := by
  rw [readDocument]
  cases String.fromUTF8? bytes with
  | none => simp
  | some text =>
    simp only [Option.some.injEq, exists_eq_left']
    cases Json.parse text with
    | ok v => simp
    | error fault => cases fault <;> simp

/-- The migrations of a plan are read one by one. -/
theorem ofValue_migrations (migrations : List Value) :
    Plan.ofValue (.record [("migrations", .list migrations)]) =
      (migrations.mapM Migration.ofValue >>= fun ms => .ok ⟨ms⟩) := rfl

theorem exists_record_of_isNamed {v : Value} (h : v.isNamed = true) :
    ∃ fields name, v = .record fields ∧ fields.lookup "name" = some name := by
  cases v
  case record fields => exact ⟨fields, _, rfl, (Option.some_get h).symm⟩
  all_goals cases h

/-- Reading named migrations stops with a failure that is not foreseen if the first one that cannot
be read is misshapen. -/
theorem unforeseen_readMigrations {migrations : List Value}
    (hnamed : ∀ m ∈ migrations, m.isNamed = true) :
    Unforeseen (migrations.mapM Migration.ofValue) ↔ ∃ before fields after,
      migrations = before ++ .record fields :: after ∧
        (∀ u ∈ before, ∃ m, Migration.ofValue u = .ok m) ∧ Migration.Misshapen fields := by
  have hreading : ∀ failure, migrations.mapM Migration.ofValue = .error failure →
      failure.InReading := by
    intro failure h
    obtain ⟨_, m, _, -, -, hm⟩ := mapM_eq_error.mp h
    exact Migration.inReading_ofValue hm
  rw [unforeseen_iff_stopsAtShape hreading, stopsAtShape_mapM]
  constructor
  · rintro ⟨before, m, after, rfl, hbefore, hm⟩
    obtain ⟨fields, name, rfl, hname⟩ := exists_record_of_isNamed (hnamed m (by simp))
    exact ⟨before, fields, after, rfl, hbefore, (Migration.stopsAtShape_ofValue hname).mp hm⟩
  · rintro ⟨before, fields, after, rfl, hbefore, hm⟩
    obtain ⟨_, name, hrecord, hname⟩ :=
      exists_record_of_isNamed (hnamed (.record fields) (by simp))
    cases hrecord
    exact ⟨before, _, after, rfl, hbefore, (Migration.stopsAtShape_ofValue hname).mpr hm⟩

theorem unforeseen_ofDocument {path : String} {v : Value} :
    Unforeseen (Plan.ofDocument path v) ↔ ∃ migrations before fields after,
      migrationsOf? v = some migrations ∧ (∀ m ∈ migrations, m.isNamed = true) ∧
        migrations = before ++ .record fields :: after ∧
        (∀ u ∈ before, ∃ m, Migration.ofValue u = .ok m) ∧ Migration.Misshapen fields := by
  rw [Plan.ofDocument]
  cases migrationsOf? v with
  | none => simp [not_unforeseen_loading]
  | some migrations =>
    simp only [Option.some.injEq]
    cases hunnamed : migrations.findIdx? (!·.isNamed) with
    | some index =>
      refine ⟨fun h => absurd h (not_unforeseen_loading _ _), ?_⟩
      rintro ⟨_, _, _, _, rfl, hnamed, -⟩
      obtain ⟨hindex, hnot, -⟩ := List.findIdx?_eq_some_iff_getElem.mp hunnamed
      simp [hnamed _ (List.getElem_mem hindex)] at hnot
    | none =>
      have hnamed : ∀ m ∈ migrations, m.isNamed = true := by
        simpa [List.findIdx?_eq_none_iff] using hunnamed
      simp only [ofValue_migrations, unforeseen_bind, not_unforeseen_ok, and_false, exists_false,
        or_false, unforeseen_readMigrations hnamed]
      constructor
      · rintro ⟨before, fields, after, hsplit, hbefore, hm⟩
        exact ⟨_, before, fields, after, rfl, hnamed, hsplit, hbefore, hm⟩
      · rintro ⟨_, before, fields, after, rfl, -, hsplit, hbefore, hm⟩
        exact ⟨before, fields, after, hsplit, hbefore, hm⟩

section
variable {disk : Disk} {path : Path} {bytes : ByteArray}

/-- The parts of reading a document. -/
theorem loadDocument_eq (hdocument : disk.find path = .ok (.document bytes)) :
    loadDocument disk path =
      (readDocument path.display bytes >>= Plan.ofDocument path.display) := by
  rw [loadDocument, Disk.read, hdocument]
  rfl

/-- Reading a document stops with a failure that is not foreseen if it is misread. -/
theorem unforeseen_loadDocument (hdocument : disk.find path = .ok (.document bytes)) :
    Unforeseen (loadDocument disk path) ↔ Misread bytes := by
  simp only [loadDocument_eq hdocument, unforeseen_bind, unforeseen_readDocument,
    readDocument_eq_ok, unforeseen_ofDocument]
  constructor
  · rintro ((hbytes | ⟨text, digits, hbytes, hparse⟩) | ⟨v, ⟨text, hbytes, hparse⟩, migrations,
      before, fields, after, hmigrations, hnamed, hsplit, hbefore, hm⟩)
    · exact .undecodable hbytes
    · exact .number hbytes hparse
    · exact .migration hbytes hparse hmigrations hnamed hsplit hbefore hm
  · intro h
    cases h with
    | undecodable hbytes => exact .inl (.inl hbytes)
    | number hbytes hparse => exact .inl (.inr ⟨_, _, hbytes, hparse⟩)
    | migration hbytes hparse hmigrations hnamed hsplit hbefore hm =>
      exact .inr ⟨_, ⟨_, hbytes, hparse⟩, _, _, _, _, hmigrations, hnamed, hsplit, hbefore, hm⟩

/-! ## Failures that are reported -/

theorem Failure.IsLoading.isReported {failure : Failure} (h : failure.IsLoading) :
    failure.isReported = true := by
  cases h <;> rfl

theorem Failure.InReading.isReported {failure : Failure} (h : failure.InReading)
    (hfailure : ¬failure.IsLoading) : failure.isReported = false := by
  cases h with
  | operation fault => exact absurd (.operation fault) hfailure
  | shape fault => rfl

/-- A failure that loading does not foresee is none that the command line reports. -/
theorem isReported_of_loadDocument {failure : Failure}
    (hdocument : disk.find path = .ok (.document bytes))
    (h : loadDocument disk path = .error failure) (hfailure : ¬failure.IsLoading) :
    failure.isReported = false := by
  rw [loadDocument_eq hdocument] at h
  rcases bind_eq_error.mp h with h | ⟨v, -, h⟩
  · rw [readDocument] at h
    repeat' split at h
    all_goals cases h
    · rfl
    · exact absurd (.loading _ _) hfailure
    · rfl
  · rw [Plan.ofDocument] at h
    repeat' split at h
    · cases h
      exact absurd (.loading _ _) hfailure
    · cases h
      exact absurd (.loading _ _) hfailure
    · rw [ofValue_migrations] at h
      rcases bind_eq_error.mp h with h | ⟨_, -, h⟩
      · obtain ⟨_, m, _, -, -, hm⟩ := mapM_eq_error.mp h
        exact (Migration.inReading_ofValue hm).isReported hfailure
      · cases h

theorem outcome_load (hdocument : disk.find path = .ok (.document bytes))
    (hsuffix : path.suffix = ".json") : (load disk path).outcome = loadDocument disk path := by
  have hentries : disk.entries? path = none := by rw [Disk.entries?, hdocument]
  simp only [load, hentries, hsuffix, beq_self_eq_true, if_true, Traced.outcome_ofOutcome]

end

end MigrationSafety
