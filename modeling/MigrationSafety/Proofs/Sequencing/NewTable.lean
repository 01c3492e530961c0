import MigrationSafety.Proofs.Sequencing.Verdicts

/-!
# What the exemption of new tables covers

The pass for new tables goes by names: an operation is exempt if its migration has created a table
of that name before. A migration may also rename tables, so that the name stands for another table
by then, and this pass does not look at that. Here names are followed through the operations of a
migration, renames included.

* `namingAfter`: what table names stand for after some operations;
* `namingAfter_of_unnamed`, `namingAfter_of_last`: the last operation that names a table decides;
* `named_of_exempted`: what the name of an exempt operation stands for.
-/

namespace MigrationSafety

/-- What a table name stands for. -/
inductive TableOrigin where
  /-- A table that the migration has created. -/
  | created
  /-- A table from before the migration. -/
  | existing
  | nothing
  deriving DecidableEq, Repr

/-- What table names stand for at some point of a migration. -/
abbrev Naming := Value → TableOrigin

/-- What table names stand for after an operation. A renamed table leaves nothing at its old
name. -/
def Naming.after (n : Naming) : Operation → Naming
  | .createTable table _ => fun name => if name.equal table then .created else n name
  | .renameTable table newName => fun name =>
    if name.equal newName then n table else if name.equal table then .nothing else n name
  | _ => n

/-- What table names stand for after some operations of a migration. -/
def namingAfter (ops : List Operation) : Naming :=
  ops.foldl Naming.after fun _ => .existing

/-- Whether an operation creates a table of a name, or renames one from it or to it. -/
def Operation.names (name : Value) : Operation → Bool
  | .createTable table _ => name.equal table
  | .renameTable table newName => name.equal newName || name.equal table
  | _ => false

/-- Whether the last operation that names a table is a rename that takes the table away, or puts
another one in its place that the migration has not created; `sofar` are the operations before. -/
def TakenOver (name : Value) (sofar ops : List Operation) : Prop :=
  ∃ mid table newName rest, ops = mid ++ .renameTable table newName :: rest ∧
    (∀ op ∈ rest, op.names name = false) ∧
    if name.equal newName then namingAfter (sofar ++ mid) table ≠ .created
    else name.equal table = true

theorem namingAfter_append (ops ops' : List Operation) :
    namingAfter (ops ++ ops') = ops'.foldl Naming.after (namingAfter ops) :=
  List.foldl_append

theorem Naming.after_createTable (n : Naming) (table name : Value) (force : Bool) :
    n.after (.createTable table force) name = if name.equal table then .created else n name := rfl

theorem Naming.after_renameTable (n : Naming) (table newName name : Value) :
    n.after (.renameTable table newName) name =
      if name.equal newName then n table else if name.equal table then .nothing else n name := rfl

theorem Naming.after_of_unnamed (n : Naming) {op : Operation} {name : Value}
    (h : op.names name = false) : n.after op name = n name := by
  cases op <;> simp_all [Naming.after, Operation.names]

/-- Operations that do not name a table keep what its name stands for. -/
theorem namingAfter_of_unnamed {ops ops' : List Operation} {name : Value}
    (h : ∀ op ∈ ops', op.names name = false) :
    namingAfter (ops ++ ops') name = namingAfter ops name := by
  rw [namingAfter_append]
  generalize namingAfter ops = n
  induction ops' generalizing n with
  | nil => rfl
  | cons op ops' ih =>
    rw [List.foldl_cons, ih (fun o ho => h o (List.mem_cons_of_mem _ ho)),
      n.after_of_unnamed (h op List.mem_cons_self)]

/-- The last operation that names a table decides what its name stands for. -/
theorem namingAfter_of_last {pre rest : List Operation} {op : Operation} {name : Value}
    (h : ∀ o ∈ rest, o.names name = false) :
    namingAfter (pre ++ op :: rest) name = (namingAfter pre).after op name := by
  rw [List.append_cons, namingAfter_of_unnamed h, namingAfter_append, List.foldl_cons,
    List.foldl_nil]

/-- The last item of a list with a property, if there is one. -/
theorem exists_last {α : Type} {P : α → Bool} {l : List α} (h : ∃ a ∈ l, P a = true) :
    ∃ pre a post, l = pre ++ a :: post ∧ P a = true ∧ ∀ b ∈ post, P b = false := by
  induction l with
  | nil => simp at h
  | cons a l ih =>
    by_cases hl : ∃ b ∈ l, P b = true
    · obtain ⟨pre, b, post, rfl, hb, hpost⟩ := ih hl
      exact ⟨a :: pre, b, post, rfl, hb, hpost⟩
    · have hpost : ∀ b ∈ l, P b = false := by simpa using hl
      obtain ⟨b, hb, hPb⟩ := h
      rcases List.mem_cons.mp hb with rfl | hb
      · exact ⟨[], b, l, rfl, hPb, hpost⟩
      · rw [hpost b hb] at hPb
        cases hPb

/-- After a table of a name is created, and while none is created anew, the name stands for the
created table unless a rename has taken it over. -/
theorem namingAfter_eq_created_iff {pre post : List Operation} {table name : Value} {force : Bool}
    (ht : name.equal table = true)
    (hpost : ∀ op ∈ post, op.creates name = false) :
    namingAfter (pre ++ .createTable table force :: post) name = .created ↔
      ¬ TakenOver name (pre ++ [.createTable table force]) post := by
  constructor
  · rintro h ⟨mid, table', newName, rest, rfl, hrest, htaken⟩
    rw [List.append_cons, ← List.append_assoc, namingAfter_of_last hrest,
      Naming.after_renameTable] at h
    split at h
    · rw [if_pos ‹_›] at htaken
      exact htaken h
    · rw [if_neg ‹_›] at htaken
      rw [if_pos htaken] at h
      cases h
  · intro h
    by_cases hn : ∃ op ∈ post, op.names name = true
    · -- The last operation of `post` that names the table is a rename that has kept it.
      obtain ⟨mid, op, rest, rfl, hop, hrest⟩ := exists_last hn
      have hcreate := hpost op (by simp)
      rw [List.append_cons, ← List.append_assoc, namingAfter_of_last hrest]
      cases op <;> simp only [Operation.names, Bool.false_eq_true] at hop
      case createTable t force =>
        rw [Operation.creates_iff.mpr ⟨t, force, rfl, hop⟩] at hcreate
        cases hcreate
      case renameTable table' newName =>
        rw [Naming.after_renameTable]
        by_cases hnew : name.equal newName = true
        · rw [if_pos hnew]
          by_contra hne
          exact h ⟨mid, table', newName, rest, rfl, hrest, by rwa [if_pos hnew]⟩
        · rw [Bool.or_eq_true, or_iff_right hnew] at hop
          exact absurd ⟨mid, table', newName, rest, rfl, hrest, by rwa [if_neg hnew]⟩ h
    · have hn : ∀ op ∈ post, op.names name = false := by simpa using hn
      rw [namingAfter_of_last hn, Naming.after_createTable, if_pos ht]

/-! ## Exempt operations -/

/-- An answer about NOT NULL never speaks of a new table. -/
theorem rule_of_answer {known : NotNullState} {v w : Verdict} {op : Operation}
    (h : known.answer v op = .ok w) (hw : w.rule = newTableRule) : w = v := by
  rcases NotNullState.answer_cases h with ⟨rfl, -⟩ | ⟨table, column, _, -, -, -, -, hw'⟩
  · rfl
  · rw [hw'] at hw
    split at hw
    · exact absurd hw (by decide : "set-not-null-after-check" ≠ newTableRule)
    · exact absurd hw (by decide : "set-not-null-scan" ≠ newTableRule)

/-- A verdict that the pass for new tables makes one about a new table belongs to an operation on a
table of a name among those that its migration has created before. -/
theorem among_of_exempted {v : Verdict} {op : Operation} {created : List Value}
    (h : (exempted v op created).rule = newTableRule) (hv : v.rule ≠ newTableRule) :
    op.table.among created = true := by
  rw [exempted_eq] at h
  split at h
  · rename_i hc
    simp only [Bool.and_eq_true] at hc
    exact hc.1.2
  · exact absurd h hv

/-- Where the second pass makes a verdict one about a new table, the migration has created a table
of that name before. The name still stands for a created table at that point exactly if no rename
after the last such creation has taken it over. -/
theorem named_of_exempted {p : Plan} {verdicts : List (List Verdict)} {s : Sequenced} {i j : Nat}
    {op : Operation} {v w : Verdict} (h : (sequence p verdicts).outcome = .ok s)
    (ho : p.operation? i j = some op) (hv : cell? verdicts i j = some v)
    (hw : cell? s.verdicts i j = some w) (hnew : w.rule = newTableRule)
    (hold : v.rule ≠ newTableRule) :
    ∃ pre table force post, p.earlier i j = pre ++ .createTable table force :: post ∧
      op.table.equal table = true ∧
      (∀ o ∈ post, o.creates op.table = false) ∧
      (namingAfter (p.earlier i j) op.table = .created ↔
        ¬ TakenOver op.table (pre ++ [.createTable table force]) post) := by
  obtain ⟨known, -, hanswer⟩ := answer_of_sequence h ho hv hw
  rw [rule_of_answer hanswer hnew] at hnew
  have hcreated := among_of_exempted hnew hold
  rw [among_createdTables, List.any_eq_true] at hcreated
  obtain ⟨pre, o, post, hsplit, hlast, hpost⟩ := exists_last hcreated
  obtain ⟨table, force, rfl, htable⟩ := Operation.creates_iff.mp hlast
  refine ⟨pre, table, force, post, hsplit, htable, hpost, ?_⟩
  rw [hsplit]
  exact namingAfter_eq_created_iff htable hpost

/-- A migration that fills the place of a new table with the old one. -/
def tableSwap : Plan :=
  ⟨[⟨.text "swap",
    [.createTable (.text "staging") false, .renameTable (.text "staging") (.text "current"),
      .renameTable (.text "users") (.text "staging"),
      .createIndex (.text "staging") [.text "email"] .null false false], false, false, false⟩]⟩

/-- Verdicts about the swap that leave its last operation, an index, to be judged. -/
def tableSwapVerdicts : List (List Verdict) :=
  [[⟨.safe, "", .nothing, none, "create-table", false⟩,
    ⟨.conditionallySafe, "", .applicationCodeFirst, none, "rename-table", false⟩,
    ⟨.conditionallySafe, "", .applicationCodeFirst, none, "rename-table", false⟩,
    ⟨.unsafeChange, "", .useConcurrentIndex, none, "create-index", false⟩]]

theorem named_of_exempted_tableSwap :
    ∃ pre table force post, tableSwap.earlier 0 3 = pre ++ .createTable table force :: post ∧
      Value.equal (.text "staging") table = true ∧
      (∀ o ∈ post, o.creates (.text "staging") = false) ∧
      (namingAfter (tableSwap.earlier 0 3) (.text "staging") = .created ↔
        ¬ TakenOver (.text "staging") (pre ++ [.createTable table force]) post) := by
  obtain ⟨s, w, hs, hw, hnew⟩ : ∃ s w, (sequence tableSwap tableSwapVerdicts).outcome = .ok s ∧
      cell? s.verdicts 0 3 = some w ∧ w.rule = newTableRule := ⟨_, _, rfl, rfl, rfl⟩
  exact named_of_exempted hs (i := 0) (j := 3) rfl rfl hw hnew (by decide)

/-- The index of the swap is built on the old table of users, and yet declared safe. -/
theorem exempted_on_existing_table :
    ∃ s v w, (sequence tableSwap tableSwapVerdicts).outcome = .ok s ∧
      cell? tableSwapVerdicts 0 3 = some v ∧ v.rule ≠ newTableRule ∧
      cell? s.verdicts 0 3 = some w ∧ w.rule = newTableRule ∧ w.status = .safe ∧
      namingAfter (tableSwap.earlier 0 3) (.text "staging") = .existing :=
  ⟨_, _, _, rfl, rfl, by decide, rfl, rfl, rfl, rfl⟩

end MigrationSafety
