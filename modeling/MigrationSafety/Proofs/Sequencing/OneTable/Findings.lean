import MigrationSafety.Proofs.Sequencing.OneTable.Plan

/-!
# What is found on one table

The second pass finds between the operations on a table, taken alone, what it finds between them in
the whole plan: whether two operations stand wrongly to each other hangs on their order, on their
fields and on whether their own table is created in their migration. A validation and a constraint
that it could be about are on one table, so nothing that is found about a validation is lost.

* `Finding.isOn`, `Finding.renumbered`: findings on a table;
* `isolationFindings_onTable`: what is found about isolation;
* `Plan.findingsAbout_onTable`, `Plan.isOn_of_mem_findingsAbout`: what is found about a validation;
* `Plan.findings_onTable`: what is found on a table.
-/

namespace MigrationSafety

/-- Whether both operations of a finding are on a table. -/
def Finding.isOn (t : String) (f : Finding) : Bool :=
  f.left.operation.isOn t && f.right.operation.isOn t

/-- A finding with its operations at their places among those on a table. -/
def Finding.renumbered (t : String) (p : Plan) : Finding → Finding
  | isolation c o => isolation (p.renumbered t c) (p.renumbered t o)
  | deferred c v => deferred (p.renumbered t c) (p.renumbered t v)
  | validateFirst v c => validateFirst (p.renumbered t v) (p.renumbered t c)

section
variable {t : String} {p : Plan}

/-! ## Isolation -/

theorem isolationPair_renumbered {c o : PlacedOperation} (hc : c ∈ p.placed) (ho : o ∈ p.placed)
    (hct : c.operation.isOn t = true) (hot : o.operation.isOn t = true) :
    isolationPair (p.renumbered t c) (p.renumbered t o) = isolationPair c o := by
  rw [isolationPair, isolationPair, Plan.samePlace_renumbered ho hc hot hct,
    Plan.before_renumbered ho hc hot hct]
  rfl

/-- What is found about isolation among operations on a table. -/
theorem isolationFindingsIn_partOn {ops : List PlacedOperation} (hops : ∀ x ∈ ops, x ∈ p.placed) :
    isolationFindingsIn (p.partOn t ops) =
      ((isolationFindingsIn ops).filter (·.isOn t)).map (.renumbered t p) := by
  rw [isolationFindingsIn, isolationFindingsIn, Plan.filter_partOn (·.concurrently),
    Plan.flatMap_partOn, List.filter_flatMap, List.map_flatMap]
  refine List.flatMap_congr fun c hc => ?_
  have hc := hops c (List.mem_filter.mp hc).1
  rw [List.filter_map, List.map_map]
  cases hct : c.operation.isOn t with
  | true =>
    -- The others on the table stand to it as before, in the same order.
    have hothers : (p.partOn t ops).filter (isolationPair (p.renumbered t c)) =
        ((ops.filter (isolationPair c)).filter (·.operation.isOn t)).map (p.renumbered t) := by
      rw [Plan.partOn, List.filter_map, List.filter_filter, List.filter_filter]
      refine congrArg _ (List.filter_congr fun o ho => ?_)
      cases hot : o.operation.isOn t with
      | true => simp [isolationPair_renumbered hc (hops o ho) hct hot]
      | false => simp
    rw [if_pos rfl, hothers, List.map_map]
    simp [Function.comp_def, Finding.isOn, Finding.renumbered, hct]
  | false =>
    simp [Function.comp_def, Finding.isOn, hct]

theorem isolationFindings_onTable (t : String) (p : Plan) :
    (p.onTable t).isolationFindings =
      (p.isolationFindings.filter (·.isOn t)).map (.renumbered t p) := by
  rw [Plan.isolationFindings, Plan.isolationFindings, Plan.onTable, List.zipIdx_map,
    List.flatMap_map, List.filter_flatMap, List.map_flatMap]
  refine List.flatMap_congr fun x hx => ?_
  show isolationFindingsIn ((x.1.onTable t).placed x.2) = _
  rw [Migration.placed_onTable (List.mem_zipIdx_iff_getElem?.mp hx)]
  exact isolationFindingsIn_partOn fun y hy => List.mem_flatMap.mpr ⟨x, hx, hy⟩

/-! ## Validations -/

/-- A validation is on the table of the constraint that it could be about. -/
theorem isOn_of_validatedBy {c v : Operation} (h : c.validatedBy v = true) :
    c.isOn t = v.isOn t := by
  refine Operation.isOn_congr ?_
  unfold Operation.validatedBy at h
  split at h
  · exact ((Bool.and_eq_true _ _).mp h).1
  · exact ((Bool.and_eq_true _ _).mp h).1
  · cases h

namespace Plan

theorem isOn_of_mem_creationsFor {v c : PlacedOperation} (hc : c ∈ p.creationsFor v) :
    c.operation.isOn t = v.operation.isOn t :=
  isOn_of_validatedBy (mem_creationsFor.mp hc).2.2

theorem creationsFor_onTable {v : PlacedOperation} (hv : v.operation.isOn t = true) :
    (p.onTable t).creationsFor (p.renumbered t v) = (p.creationsFor v).map (p.renumbered t) := by
  have hpart : (p.onTable t).creationsFor (p.renumbered t v) = p.partOn t (p.creationsFor v) := by
    rw [creationsFor, creationsFor, unvalidated, unvalidated, placed_onTable, filter_partOn]
    exact filter_partOn (·.validatedBy v.operation) _
  rw [hpart]
  exact partOn_eq_map fun c hc => (isOn_of_mem_creationsFor hc).trans hv

/-- Whether the table itself is created in a migration is seen from the operations on it. -/
theorem among_createdTables_onTable (t : String) (ops : List Operation) :
    (Value.text t).among (createdTables (ops.filter (·.isOn t))) =
      (Value.text t).among (createdTables ops) := by
  rw [among_createdTables, among_createdTables, List.any_filter]
  congr 1
  funext op
  cases hcreates : op.creates (.text t) with
  | true => rw [Operation.isOn_of_creates hcreates]; rfl
  | false => exact Bool.and_false _

theorem onCreatedTable_onTable {c : PlacedOperation} (hc : c.operation.isOn t = true) :
    (p.onTable t).onCreatedTable (p.renumbered t c) = p.onCreatedTable c := by
  have htable : c.operation.table = .text t := Operation.isOn_iff.mp hc
  rw [onCreatedTable, onCreatedTable, onTable, List.zipIdx_map, List.any_map]
  congr 1
  funext x
  show (c.ref.migration == x.2 && c.operation.table.among
    (createdTables (x.1.operations.filter (·.isOn t)))) = _
  rw [htable, among_createdTables_onTable]

theorem mustDefer_onTable {v c : PlacedOperation} (hc : c.operation.isOn t = true) :
    (p.onTable t).mustDefer (p.renumbered t v) (p.renumbered t c) = p.mustDefer v c := by
  rw [mustDefer, mustDefer, onCreatedTable_onTable hc]
  rfl

theorem deferredOf_onTable {v : PlacedOperation} (hv : v.operation.isOn t = true) :
    (p.onTable t).deferredOf (p.renumbered t v) = (p.deferredOf v).map (p.renumbered t) := by
  rw [deferredOf, deferredOf, creationsFor_onTable hv, List.filter_map]
  refine congrArg _ (List.filter_congr fun c hc => ?_)
  exact mustDefer_onTable ((isOn_of_mem_creationsFor hc).trans hv)

theorem awaitedBy_onTable {v : PlacedOperation} (hv : v ∈ p.placed)
    (hvt : v.operation.isOn t = true) :
    (p.onTable t).awaitedBy (p.renumbered t v) = (p.awaitedBy v).map (p.renumbered t) := by
  have hall : (p.creationsFor v).all (fun c =>
      (p.renumbered t v).ref.before (p.renumbered t c).ref) =
        (p.creationsFor v).all fun c => v.ref.before c.ref := by
    rw [Bool.eq_iff_iff, List.all_eq_true, List.all_eq_true]
    refine forall₂_congr fun c hc => ?_
    rw [before_renumbered hv (mem_creationsFor.mp hc).1 hvt
      ((isOn_of_mem_creationsFor hc).trans hvt)]
  rw [awaitedBy, awaitedBy, creationsFor_onTable hvt, List.all_map, Function.comp_def, hall,
    ← List.map_take]
  split <;> rfl

theorem findingsAbout_onTable {v : PlacedOperation} (hv : v ∈ p.placed)
    (hvt : v.operation.isOn t = true) :
    (p.onTable t).findingsAbout (p.renumbered t v) =
      (p.findingsAbout v).map (.renumbered t p) := by
  rw [findingsAbout, findingsAbout, deferredOf_onTable hvt, awaitedBy_onTable hv hvt,
    List.map_append, List.map_map, List.map_map, List.map_map, List.map_map]
  rfl

/-- What is found about a validation is on its table. -/
theorem isOn_of_mem_findingsAbout {v : PlacedOperation} {f : Finding}
    (hf : f ∈ p.findingsAbout v) : f.isOn t = v.operation.isOn t := by
  obtain ⟨c, hc, rfl | rfl⟩ := exists_of_mem_findingsAbout hf
  · rw [Finding.isOn, Finding.left, Finding.right, isOn_of_mem_creationsFor hc, Bool.and_self]
  · rw [Finding.isOn, Finding.left, Finding.right, isOn_of_mem_creationsFor hc, Bool.and_self]

theorem validationFindings_onTable (t : String) (p : Plan) :
    (p.onTable t).validations.flatMap (p.onTable t).findingsAbout =
      ((p.validations.flatMap p.findingsAbout).filter (·.isOn t)).map (.renumbered t p) := by
  rw [validations, validations, placed_onTable, filter_partOn, flatMap_partOn,
    List.filter_flatMap, List.map_flatMap]
  refine List.flatMap_congr fun v hv => ?_
  have hv := (List.mem_filter.mp hv).1
  cases hvt : v.operation.isOn t with
  | true =>
    rw [if_pos rfl, findingsAbout_onTable hv hvt, List.filter_eq_self.mpr fun f hf =>
      (isOn_of_mem_findingsAbout hf).trans hvt]
  | false =>
    have hnone : (p.findingsAbout v).filter (·.isOn t) = [] :=
      List.filter_eq_nil_iff.mpr fun f hf =>
        Bool.eq_false_iff.mp ((isOn_of_mem_findingsAbout hf).trans hvt)
    rw [if_neg Bool.false_ne_true, hnone, List.map_nil]

/-- What is found between the operations on a table is what is found between them in the plan. -/
theorem findings_onTable (t : String) (p : Plan) :
    (p.onTable t).findings = (p.findings.filter (·.isOn t)).map (.renumbered t p) := by
  rw [findings, findings, isolationFindings_onTable, validationFindings_onTable,
    List.filter_append, List.map_append]

end Plan

end

end MigrationSafety
