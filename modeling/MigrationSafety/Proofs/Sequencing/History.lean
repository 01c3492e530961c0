import MigrationSafety.Sequencing.Sequence

/-!
# Places and what runs before them

Verdicts and operations are looked up by place: the index of a migration and an index in it. What a
verdict of the second pass hangs on are the operations that run before its place, in the same
migration or in the whole plan.

* `cell?`: what stands at a place;
* `Plan.earlier`, `Plan.later`: what runs before and after a place in its migration;
* `Plan.history`: what runs before a place in the plan;
* `aligned_iff`: operations and verdicts are aligned if they have one shape;
* `cell?_rowsOf`, `map_fst_rowsOf`: operations beside their verdicts.
-/

namespace MigrationSafety

variable {α β : Type}

/-- What stands at a place. -/
def cell? (rows : List (List α)) (i j : Nat) : Option α :=
  rows[i]?.bind (·[j]?)

/-- What runs before a place in the same row. -/
def earlierIn (rows : List (List α)) (i j : Nat) : List α :=
  (rows.getD i []).take j

/-- What runs after a place in the same row. -/
def laterIn (rows : List (List α)) (i j : Nat) : List α :=
  (rows.getD i []).drop (j + 1)

/-- What runs before a place in all rows. -/
def historyIn (rows : List (List α)) (i j : Nat) : List α :=
  (rows.take i).flatten ++ earlierIn rows i j

namespace Plan

/-- The operations of a plan, migration by migration. -/
def grid (p : Plan) : List (List Operation) :=
  p.migrations.map (·.operations)

/-- The operation at a place. -/
def operation? (p : Plan) (i j : Nat) : Option Operation :=
  cell? p.grid i j

/-- The operations that run before a place in its migration. -/
def earlier (p : Plan) (i j : Nat) : List Operation :=
  earlierIn p.grid i j

/-- The operations that run after a place in its migration. -/
def later (p : Plan) (i j : Nat) : List Operation :=
  laterIn p.grid i j

/-- The operations that run before a place in the plan. -/
def history (p : Plan) (i j : Nat) : List Operation :=
  historyIn p.grid i j

end Plan

theorem cell?_eq_some {rows : List (List α)} {i j : Nat} {a : α} :
    cell? rows i j = some a ↔ ∃ row, rows[i]? = some row ∧ row[j]? = some a := by
  simp [cell?, Option.bind_eq_some_iff]

theorem Plan.operation?_eq_some {p : Plan} {i j : Nat} {op : Operation} :
    p.operation? i j = some op ↔
      ∃ m, p.migrations[i]? = some m ∧ m.operations[j]? = some op := by
  simp only [Plan.operation?, cell?_eq_some, Plan.grid, List.getElem?_map, Option.map_eq_some_iff]
  constructor
  · rintro ⟨_, ⟨m, hm, rfl⟩, hop⟩
    exact ⟨m, hm, hop⟩
  · rintro ⟨m, hm, hop⟩
    exact ⟨_, ⟨m, hm, rfl⟩, hop⟩

theorem earlierIn_of_getElem? {rows : List (List α)} {i j : Nat} {row : List α}
    (h : rows[i]? = some row) : earlierIn rows i j = row.take j := by
  rw [earlierIn, List.getD_eq_getElem?_getD, h, Option.getD_some]

/-- A row is what runs before a place, what stands there and what runs after it. -/
theorem row_eq {rows : List (List α)} {i j : Nat} {row : List α} {a : α}
    (hrow : rows[i]? = some row) (ha : row[j]? = some a) :
    row = earlierIn rows i j ++ a :: laterIn rows i j := by
  obtain ⟨hj, rfl⟩ := List.getElem?_eq_some_iff.mp ha
  rw [earlierIn_of_getElem? hrow, laterIn, List.getD_eq_getElem?_getD, hrow, Option.getD_some,
    ← List.drop_eq_getElem_cons hj, List.take_append_drop]

theorem mem_of_mem_historyIn {rows : List (List α)} {i j : Nat} {a : α}
    (h : a ∈ historyIn rows i j) : ∃ row ∈ rows, a ∈ row := by
  rcases List.mem_append.mp h with h | h
  · obtain ⟨row, hrow, ha⟩ := List.mem_flatten.mp h
    exact ⟨row, List.mem_of_mem_take hrow, ha⟩
  · rw [earlierIn, List.getD_eq_getElem?_getD] at h
    cases hi : rows[i]? with
    | none => simp [hi] at h
    | some row =>
      rw [hi] at h
      exact ⟨row, List.mem_of_getElem? hi, List.mem_of_mem_take h⟩

theorem map_earlierIn (f : α → β) (rows : List (List α)) (i j : Nat) :
    (earlierIn rows i j).map f = earlierIn (rows.map (·.map f)) i j := by
  simp only [earlierIn, List.getD_eq_getElem?_getD, List.getElem?_map, List.map_take]
  cases rows[i]? <;> rfl

theorem map_historyIn (f : α → β) (rows : List (List α)) (i j : Nat) :
    (historyIn rows i j).map f = historyIn (rows.map (·.map f)) i j := by
  simp only [historyIn, List.map_append, map_earlierIn, List.map_flatten, List.map_take]

/-- Aligned verdicts are as many as the operations, in every migration. -/
theorem aligned_iff {p : Plan} {verdicts : List (List Verdict)} :
    aligned p verdicts = true ↔ p.grid.map List.length = verdicts.map List.length := by
  obtain ⟨ms⟩ := p
  simp only [aligned, Plan.grid, List.map_map, Bool.and_eq_true, beq_iff_eq]
  induction ms generalizing verdicts with
  | nil => cases verdicts <;> simp
  | cons m ms ih => cases verdicts <;> simp_all [and_left_comm]

/-- Rows of one shape have the same places. -/
theorem exists_cell_of_shape {rows : List (List α)} {rows' : List (List β)}
    (h : rows.map List.length = rows'.map List.length) {i j : Nat} {a : α}
    (ha : cell? rows i j = some a) : ∃ b, cell? rows' i j = some b := by
  obtain ⟨row, hi, hj⟩ := cell?_eq_some.mp ha
  have hlength : (rows'.map List.length)[i]? = some row.length := by
    rw [← h, List.getElem?_map, hi, Option.map_some]
  rw [List.getElem?_map, Option.map_eq_some_iff] at hlength
  obtain ⟨row', hi', hrow'⟩ := hlength
  obtain ⟨hj, -⟩ := List.getElem?_eq_some_iff.mp hj
  rw [← hrow'] at hj
  exact ⟨row'[j], cell?_eq_some.mpr ⟨row', hi', List.getElem?_eq_getElem hj⟩⟩

theorem rowsOf_eq_zipWith (p : Plan) (verdicts : List (List Verdict)) :
    rowsOf p verdicts = List.zipWith List.zip p.grid verdicts := by
  simp [rowsOf, Plan.grid, List.zipWith_map_left, List.zip, List.map_zipWith]

theorem cell?_zipWith_zip {rows : List (List α)} {rows' : List (List β)} {i j : Nat} {a : α}
    {b : β} :
    cell? (List.zipWith List.zip rows rows') i j = some (a, b) ↔
      cell? rows i j = some a ∧ cell? rows' i j = some b := by
  simp only [cell?, List.getElem?_zipWith]
  cases rows[i]? <;> cases rows'[i]? <;>
    simp [List.getElem?_zip_eq_some]

theorem map_fst_zipWith_zip {rows : List (List α)} {rows' : List (List β)}
    (h : rows.map List.length = rows'.map List.length) :
    (List.zipWith List.zip rows rows').map (·.map Prod.fst) = rows := by
  induction rows generalizing rows' with
  | nil => simp
  | cons row rows ih =>
    cases rows' with
    | nil => simp at h
    | cons row' rows' =>
      simp only [List.map_cons, List.cons.injEq] at h
      simp only [List.zipWith_cons_cons, List.map_cons, ih h.2,
        List.map_fst_zip (Nat.le_of_eq h.1)]

/-- Operations beside their verdicts. -/
theorem cell?_rowsOf {p : Plan} {verdicts : List (List Verdict)} {i j : Nat} {op : Operation}
    {v : Verdict} (ho : p.operation? i j = some op) (hv : cell? verdicts i j = some v) :
    cell? (rowsOf p verdicts) i j = some (op, v) := by
  rw [rowsOf_eq_zipWith]
  exact cell?_zipWith_zip.mpr ⟨ho, hv⟩

theorem map_fst_rowsOf {p : Plan} {verdicts : List (List Verdict)}
    (h : aligned p verdicts = true) : (rowsOf p verdicts).map (·.map Prod.fst) = p.grid := by
  rw [rowsOf_eq_zipWith]
  exact map_fst_zipWith_zip (aligned_iff.mp h)

end MigrationSafety
