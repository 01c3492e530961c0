import MigrationSafety.Migration
import MigrationSafety.Operation.Describe

/-!
# Operations whose fields have their types

A plan may put anything into the fields of an operation. Where they hold what their declarations
say (texts, null where a field may be left out, lists of texts for column names), nothing that
looks at a single operation can fail.

* `Operation.isTyped`, `Plan.isTyped`: whether all fields have their types;
* `Operation.describe_total`, `Operation.notNullColumnOf_total`: what cannot fail.
-/

namespace MigrationSafety

namespace Operation

/-- Whether a field may hold a value. -/
def Field.admits (f : Field) : Value → Bool
  | .text _ => f.role == .plain
  | .null => f.role == .plain && f.default?.isSome
  | .list items => f.role == .columns && items.all Value.isText
  | .flag _ => f.role == .flag
  | _ => false

/-- Whether all fields of an operation hold what they may. -/
def isTyped (op : Operation) : Bool :=
  op.assignments.all fun (f, v) => f.admits v

end Operation

/-- Whether all fields of all operations of a plan hold what they may. -/
def Plan.isTyped (p : Plan) : Bool :=
  p.migrations.all (·.operations.all Operation.isTyped)

namespace Operation

@[simp] theorem admits_required (name : String) (v : Value) :
    (Field.required name).admits v = true ↔ ∃ s, v = .text s := by
  cases v <;> simp [Field.admits, Field.required]

@[simp] theorem admits_columns (names : List Value) :
    Field.columns.admits (.list names) = true ↔ ∀ v ∈ names, v.isText = true := by
  simp [Field.admits, Field.columns]

@[simp] theorem admits_optionalColumns (names : List Value) :
    Field.optionalColumns.admits (.list names) = true ↔ ∀ v ∈ names, v.isText = true := by
  simp [Field.admits, Field.optionalColumns]

theorem joinNames_total (separator : String) {names : List Value}
    (h : ∀ v ∈ names, v.isText = true) : ∃ s, joinNames separator names = .ok s := by
  have hnone : names.find? (!·.isText) = none := by simpa using h
  rw [joinNames, hnone]
  exact ⟨_, rfl⟩

theorem indexNameOf_total (table name : Value) {columns : List Value}
    (h : ∀ v ∈ columns, v.isText = true) : ∃ v, indexNameOf table name columns = .ok v := by
  obtain ⟨s, hs⟩ := joinNames_total "_and_" h
  rw [indexNameOf, hs]
  split
  · exact ⟨_, rfl⟩
  · exact ⟨_, rfl⟩

theorem admits_of_isTyped {op : Operation} (h : op.isTyped = true) {f : Field} {v : Value}
    (hf : (f, v) ∈ op.assignments) : f.admits v = true :=
  List.all_eq_true.mp h (f, v) hf

theorem isScalar_of_admits {f : Field} {v : Value} (hf : f.role = .plain)
    (h : f.admits v = true) : v.isScalar = true := by
  cases v <;> simp_all [Field.admits, Value.isScalar]

theorem mem_assignments_table (op : Operation) :
    ∃ f : Field, f.role = .plain ∧ (f, op.table) ∈ op.assignments := by
  cases op
  case executeSql => exact ⟨_, rfl, .tail _ (.head _)⟩
  all_goals exact ⟨_, rfl, .head _⟩

theorem isScalar_table {op : Operation} (h : op.isTyped = true) : op.table.isScalar = true := by
  obtain ⟨f, hf, hmem⟩ := mem_assignments_table op
  exact isScalar_of_admits hf (admits_of_isTyped h hmem)

/-- A typed operation has a description. -/
theorem describe_total {op : Operation} (h : op.isTyped = true) :
    ∃ s, op.describe = .ok s := by
  cases op
  case removeColumn table columns =>
    have hc := (admits_columns columns).mp (admits_of_isTyped h (.tail _ (.head _)))
    obtain ⟨s, hs⟩ := joinNames_total ", " hc
    rw [describe, hs]
    exact ⟨_, rfl⟩
  case createIndex table columns name unique concurrently =>
    have hc := (admits_columns columns).mp (admits_of_isTyped h (.tail _ (.head _)))
    obtain ⟨index, hindex⟩ := indexNameOf_total table name hc
    obtain ⟨s, hs⟩ := joinNames_total ", " hc
    rw [describe, hindex, hs]
    exact ⟨_, rfl⟩
  case removeIndex table name columns concurrently =>
    have hc := (admits_optionalColumns columns).mp
      (admits_of_isTyped h (.tail _ (.tail _ (.head _))))
    obtain ⟨index, hindex⟩ := indexNameOf_total table name hc
    rw [describe, hindex]
    exact ⟨_, rfl⟩
  case addUniqueConstraint table columns name usingIndex =>
    have hc := (admits_columns columns).mp (admits_of_isTyped h (.tail _ (.head _)))
    obtain ⟨s, hs⟩ := joinNames_total ", " hc
    rw [describe, hs]
    exact ⟨_, rfl⟩
  case executeSql sql table =>
    obtain ⟨s, rfl⟩ := (admits_required _ sql).mp (admits_of_isTyped h (.head _))
    exact ⟨_, rfl⟩
  all_goals exact ⟨_, rfl⟩

theorem notNullColumnOf_total {table expression name : Value} {validate : Bool}
    (h : (addCheckConstraint table expression name validate).isTyped = true) :
    ∃ column, notNullColumnOf expression = .ok column := by
  obtain ⟨s, rfl⟩ := (admits_required _ expression).mp (admits_of_isTyped h (.tail _ (.head _)))
  exact ⟨_, rfl⟩

theorem isScalar_constraintNameOf {table expression name : Value} {validate : Bool}
    (h : (addCheckConstraint table expression name validate).isTyped = true) :
    (constraintNameOf table expression name).isScalar = true := by
  have hname : name.isScalar = true :=
    isScalar_of_admits rfl (admits_of_isTyped h (.tail _ (.tail _ (.head _))))
  rw [constraintNameOf]
  split
  · exact hname
  · rfl

end Operation

end MigrationSafety
