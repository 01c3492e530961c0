import Mathlib.Data.List.Induction
import Mathlib.Data.List.Pairwise
import MigrationSafety.Proofs.Sequencing.Violations

/-!
# The part of a plan on one table

The operations on one table make a plan of their own, in which every operation runs in the same
migration as before and behind the same operations on its table.

* `Migration.onTable`, `Plan.onTable`, `Plan.verdictsOn`: that plan, and verdicts about it;
* `rowsOf_onTable`, `aligned_onTable`: its operations beside their verdicts;
* `Plan.renumber`: the places of its operations;
* `Plan.placed_onTable`: its operations are those on the table, renumbered;
* `Plan.before_renumbered`: they run in the same order.
-/

namespace MigrationSafety

/-- Whether an operation is on a table. -/
def Operation.isOn (t : String) (op : Operation) : Bool :=
  op.table.equal (.text t)

/-- A migration with its operations on one table only. -/
def Migration.onTable (t : String) (m : Migration) : Migration :=
  { m with operations := m.operations.filter (·.isOn t) }

/-- The operations of a row that are on a table, with their verdicts. -/
def rowOn (t : String) (row : List (Operation × Verdict)) : List (Operation × Verdict) :=
  row.filter (·.1.isOn t)

namespace Plan

/-- A plan with its operations on one table only. -/
def onTable (t : String) (p : Plan) : Plan :=
  ⟨p.migrations.map (·.onTable t)⟩

/-- The verdicts about the operations of a plan on a table. -/
def verdictsOn (t : String) (p : Plan) (verdicts : List (List Verdict)) : List (List Verdict) :=
  (rowsOf p verdicts).map fun row => (rowOn t row).map Prod.snd

/-- Whether the operation at a place is on a table. -/
def isOn (t : String) (p : Plan) (ref : OperationRef) : Bool :=
  (p.operation? ref.migration.toNat ref.index.toNat).any (·.isOn t)

/-- The place of an operation among those on a table. -/
def renumber (t : String) (p : Plan) (ref : OperationRef) : OperationRef :=
  { ref with index := (p.earlier ref.migration.toNat ref.index.toNat).countP (·.isOn t) }

/-- An operation at its place among those on a table. -/
def renumbered (t : String) (p : Plan) (x : PlacedOperation) : PlacedOperation :=
  ⟨p.renumber t x.ref, x.operation⟩

/-- Those of some operations that are on a table, renumbered. -/
def partOn (t : String) (p : Plan) (ops : List PlacedOperation) : List PlacedOperation :=
  (ops.filter (·.operation.isOn t)).map (p.renumbered t)

end Plan

theorem Operation.isOn_iff {t : String} {op : Operation} :
    op.isOn t = true ↔ op.table = .text t :=
  Value.equal_text_right

/-- Operations with equal tables are on the same table. -/
theorem Operation.isOn_congr {t : String} {op op' : Operation}
    (h : op.table.equal op'.table = true) : op.isOn t = op'.isOn t := by
  rw [Bool.eq_iff_iff, isOn_iff, isOn_iff]
  constructor
  · intro ht
    rw [ht] at h
    exact Value.equal_text_left.mp h
  · intro ht
    rw [ht] at h
    exact Value.equal_text_right.mp h

/-- An operation that creates a table is on it. -/
theorem Operation.isOn_of_creates {t : String} {op : Operation}
    (h : op.creates (.text t) = true) : op.isOn t = true := by
  obtain ⟨table, _, rfl, htable⟩ := creates_iff.mp h
  exact isOn_iff.mpr (Value.equal_text_left.mp htable)

section
variable {t : String} {p : Plan}

/-! ## Rows -/

theorem grid_onTable (t : String) (p : Plan) :
    (p.onTable t).grid = p.grid.map (·.filter (·.isOn t)) := by
  rw [Plan.grid, Plan.grid, Plan.onTable, List.map_map, List.map_map]
  rfl

theorem map_fst_rowOn (row : List (Operation × Verdict)) :
    (rowOn t row).map Prod.fst = (row.map Prod.fst).filter (·.isOn t) := by
  rw [rowOn, List.filter_map]
  rfl

/-- The rows of the operations on a table. -/
theorem grid_onTable_of_aligned {verdicts : List (List Verdict)} (h : aligned p verdicts = true) :
    (p.onTable t).grid = (rowsOf p verdicts).map fun row => (rowOn t row).map Prod.fst := by
  rw [grid_onTable, ← map_fst_rowsOf h, List.map_map]
  exact List.map_congr_left fun row _ => (map_fst_rowOn row).symm

theorem aligned_onTable {verdicts : List (List Verdict)} (h : aligned p verdicts = true) :
    aligned (p.onTable t) (p.verdictsOn t verdicts) = true := by
  rw [aligned_iff, grid_onTable_of_aligned h, Plan.verdictsOn, List.map_map, List.map_map]
  exact List.map_congr_left fun row _ => by simp

/-- The operations on a table beside their verdicts. -/
theorem rowsOf_onTable {verdicts : List (List Verdict)} (h : aligned p verdicts = true) :
    rowsOf (p.onTable t) (p.verdictsOn t verdicts) = (rowsOf p verdicts).map (rowOn t) := by
  rw [rowsOf_eq_zipWith, grid_onTable_of_aligned h, Plan.verdictsOn, List.zipWith_map,
    List.zipWith_self]
  refine List.map_congr_left fun row _ => ?_
  rw [List.zip_map', List.map_id']

/-! ## Places -/

/-- Where the elements that are kept stand among each other. -/
theorem zipIdx_filter {α : Type} (q : α → Bool) (as : List α) :
    (as.filter q).zipIdx =
      (as.zipIdx.filter (q ·.1)).map fun x => (x.1, (as.take x.2).countP q) := by
  induction as using List.reverseRecOn with
  | nil => rfl
  | append_singleton as a ih =>
    have htake : (as.zipIdx.filter (q ·.1)).map (fun x => (x.1, ((as ++ [a]).take x.2).countP q)) =
        (as.filter q).zipIdx := by
      rw [ih]
      refine List.map_congr_left fun x hx => ?_
      have hlt := List.snd_lt_of_mem_zipIdx (List.mem_filter.mp hx).1
      rw [List.take_append_of_le_length (by omega)]
    rw [List.filter_append, List.zipIdx_append, List.zipIdx_append, List.filter_append,
      List.map_append, htake]
    cases ha : q a <;> simp [ha, List.countP_eq_length_filter]

theorem Migration.placed_onTable {i : Nat} {m : Migration} (hm : p.migrations[i]? = some m) :
    (m.onTable t).placed i = p.partOn t (m.placed i) := by
  have hgrid : p.grid[i]? = some m.operations := by rw [Plan.grid, List.getElem?_map, hm]; rfl
  rw [Migration.placed, Migration.placed, Migration.onTable, zipIdx_filter, Plan.partOn,
    List.filter_map, List.map_map, List.map_map]
  refine List.map_congr_left fun x _ => ?_
  simp only [Function.comp_apply, Plan.renumbered, Plan.renumber, Int.toNat_natCast, Plan.earlier,
    earlierIn_of_getElem? hgrid]

/-- The operations of the plan on one table are those of the plan on it, renumbered. -/
theorem Plan.placed_onTable (t : String) (p : Plan) :
    (p.onTable t).placed = p.partOn t p.placed := by
  rw [Plan.placed, Plan.placed, Plan.onTable, List.zipIdx_map, List.flatMap_map, Plan.partOn,
    List.filter_flatMap, List.map_flatMap]
  refine List.flatMap_congr fun x hx => ?_
  exact Migration.placed_onTable (List.mem_zipIdx_iff_getElem?.mp hx)

/-- Operations can be chosen by what they do before they are renumbered. -/
theorem Plan.filter_partOn (q : Operation → Bool) (ops : List PlacedOperation) :
    (p.partOn t ops).filter (q ·.operation) = p.partOn t (ops.filter (q ·.operation)) := by
  rw [partOn, partOn, List.filter_map, List.filter_comm]
  rfl

/-- If all operations are on the table, they are only renumbered. -/
theorem Plan.partOn_eq_map {ops : List PlacedOperation}
    (h : ∀ x ∈ ops, x.operation.isOn t = true) : p.partOn t ops = ops.map (p.renumbered t) := by
  rw [partOn, List.filter_eq_self.mpr h]

/-- What the operations on a table have to show, operation by operation. -/
theorem Plan.flatMap_partOn {α : Type} (g : PlacedOperation → List α)
    (ops : List PlacedOperation) : (p.partOn t ops).flatMap g =
      ops.flatMap fun x => if x.operation.isOn t then g (p.renumbered t x) else [] := by
  rw [partOn, List.flatMap_map]
  induction ops with
  | nil => rfl
  | cons x ops ih => cases hx : x.operation.isOn t <;> simp [hx, ih]

theorem Plan.isOn_ref {x : PlacedOperation} (hx : x ∈ p.placed) :
    p.isOn t x.ref = x.operation.isOn t := by
  obtain ⟨i, j, m, op, hm, hop, rfl⟩ := Plan.mem_placed.mp hx
  have hplace : p.operation? i j = some op := Plan.operation?_eq_some.mpr ⟨m, hm, hop⟩
  simp only [Plan.isOn, Int.toNat_natCast, hplace, Option.any_some]

/-- Two operations run in the same order after they are renumbered. -/
def Plan.SameOrder (t : String) (p : Plan) (x y : PlacedOperation) : Prop :=
  (p.renumbered t x).ref.before (p.renumbered t y).ref = x.ref.before y.ref ∧
    (p.renumbered t y).ref.before (p.renumbered t x).ref = y.ref.before x.ref

instance (t : String) (p : Plan) : Std.Symm (p.SameOrder t) :=
  ⟨fun _ _ h => h.symm⟩

theorem Plan.sameOrder_self (t : String) (p : Plan) (x : PlacedOperation) : p.SameOrder t x x := by
  simp only [SameOrder, OperationRef.before_irrefl, and_self]

/-- Operations on one table run in the same order after they are renumbered. -/
theorem Plan.sameOrder {x y : PlacedOperation} (hx : x ∈ p.placed) (hy : y ∈ p.placed)
    (hxt : x.operation.isOn t = true) (hyt : y.operation.isOn t = true) : p.SameOrder t x y := by
  -- The operations on the table are listed in their order, and so are they after renumbering.
  have hrenumbered := (p.onTable t).placed_sorted
  rw [placed_onTable, partOn, List.pairwise_map] at hrenumbered
  have hsorted : (p.placed.filter (·.operation.isOn t)).Pairwise (p.SameOrder t) :=
    ((p.placed_sorted.filter _).and hrenumbered).imp fun ⟨hab, hrenumbered⟩ =>
      ⟨hrenumbered.trans hab.symm, (OperationRef.before_asymm hrenumbered).trans
        (OperationRef.before_asymm hab).symm⟩
  exact hsorted.forall_of_forall (fun z _ => p.sameOrder_self t z)
    (List.mem_filter.mpr ⟨hx, hxt⟩) (List.mem_filter.mpr ⟨hy, hyt⟩)

theorem Plan.before_renumbered {x y : PlacedOperation} (hx : x ∈ p.placed) (hy : y ∈ p.placed)
    (hxt : x.operation.isOn t = true) (hyt : y.operation.isOn t = true) :
    (p.renumbered t x).ref.before (p.renumbered t y).ref = x.ref.before y.ref :=
  (Plan.sameOrder hx hy hxt hyt).1

theorem Plan.samePlace_renumbered {x y : PlacedOperation} (hx : x ∈ p.placed) (hy : y ∈ p.placed)
    (hxt : x.operation.isOn t = true) (hyt : y.operation.isOn t = true) :
    (p.renumbered t x).ref.samePlace (p.renumbered t y).ref = x.ref.samePlace y.ref := by
  rw [OperationRef.samePlace_eq, OperationRef.samePlace_eq, before_renumbered hx hy hxt hyt,
    before_renumbered hy hx hyt hxt]

end

end MigrationSafety
