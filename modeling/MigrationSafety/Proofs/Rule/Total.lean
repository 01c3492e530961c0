import MigrationSafety.Proofs.Alike
import MigrationSafety.Proofs.Operation.Typed
import MigrationSafety.Proofs.Rule.Ruling

/-!
# Verdicts about typed operations

Where the fields of an operation have their types, its fields can be shown and every rationale of
the table can be filled in with them. So a verdict about a typed operation hangs on nothing but what
the rules come to.

* `Rule.explain_total`: a rule of the table can word its rationale;
* `classify_of_first?`, `classify_of_unknown`: the verdict where a rule applies, and where it cannot
  be told whether one does;
* `classify_judged`: the status and the rule of a verdict as one function of what the rules decide.
-/

namespace MigrationSafety

namespace Operation

theorem displayField_total {f : Field} {v : Value} (h : f.admits v = true) :
    ∃ text, displayField f v = .ok text := by
  unfold displayField
  split
  · rename_i names _
    have hnames : ∀ v ∈ names, v.isText = true := by
      simp only [Field.admits, Bool.and_eq_true, List.all_eq_true] at h
      exact h.2
    exact joinNames_total ", " hnames
  · exact ⟨"", rfl⟩
  · exact ⟨_, rfl⟩

/-- The fields of a typed operation can be shown, each under its name. -/
theorem displayFields_total {op : Operation} (h : op.isTyped = true) :
    ∃ fields, op.displayFields = .ok fields ∧
      fields.map Prod.fst = op.kind.fields.map (·.name) := by
  have htotal : ∀ x ∈ op.assignments, ∃ y : String × String, (do
      let text ← displayField x.1 x.2
      .ok (x.1.name, text) : Outcome (String × String)) = .ok y := by
    intro x hx
    obtain ⟨text, htext⟩ := displayField_total (admits_of_isTyped h hx)
    exact ⟨_, bind_eq_ok.mpr ⟨text, htext, rfl⟩⟩
  obtain ⟨fields, hfields⟩ := mapM_total htotal
  refine ⟨fields, hfields, ?_⟩
  rw [← map_fst_assignments, List.map_map]
  have hshown := mapM_eq_ok.mp hfields
  clear htotal hfields
  generalize op.assignments = assignments at hshown
  induction hshown with
  | nil => rfl
  | cons hxy _ ih =>
    obtain ⟨_, -, hy⟩ := bind_eq_ok.mp hxy
    cases hy
    rw [List.map_cons, List.map_cons, ih]
    rfl

end Operation

/-! ## Rationales -/

/-- Whether a piece of a rationale can be filled in for a kind of operations. -/
def Piece.fits (kind : Operation.Kind) : Piece → Bool
  | .field name => kind.fields.any (·.name == name)
  | _ => true

/-- The rationales of the table name fields that their operations have. -/
theorem Rule.rationale_fits (kind : Operation.Kind) :
    (Rule.forKind Rule.table kind).all fun r => r.rationale.all (Piece.fits kind) := by
  cases kind <;> decide

theorem Piece.fill_total {kind : Operation.Kind} {fields : List (String × String)}
    (hfields : fields.map Prod.fst = kind.fields.map (·.name)) (engine : String) {piece : Piece}
    (h : piece.fits kind = true) : ∃ s, piece.fill engine fields = .ok s := by
  cases piece with
  | words s => exact ⟨s, rfl⟩
  | engine => exact ⟨engine, rfl⟩
  | field name =>
    obtain ⟨f, hf, hname⟩ := List.any_eq_true.mp h
    have hmem : name ∈ fields.map Prod.fst := by
      rw [hfields, ← beq_iff_eq.mp hname]
      exact List.mem_map_of_mem hf
    obtain ⟨x, hx, rfl⟩ := List.mem_map.mp hmem
    have hsome : (fields.lookup x.1).isSome = true :=
      List.lookup_isSome_iff.mpr ⟨x, hx, beq_self_eq_true x.1⟩
    obtain ⟨text, htext⟩ := Option.isSome_iff_exists.mp hsome
    rw [Piece.fill, htext]
    exact ⟨text, rfl⟩

namespace Rule

variable {ctx : Context} {op : Operation}

/-- A rule of the table can word its rationale for a typed operation. -/
theorem explain_total (ctx : Context) {r : Rule} (h : op.isTyped = true)
    (hr : r ∈ Rule.forKind Rule.table op.kind) : ∃ s, r.explain ctx op = .ok s := by
  obtain ⟨fields, hfields, hnames⟩ := Operation.displayFields_total h
  have hfits := List.all_eq_true.mp (List.all_eq_true.mp (rationale_fits op.kind) r hr)
  obtain ⟨pieces, hpieces⟩ := mapM_total fun piece hpiece =>
    Piece.fill_total hnames ctx.engine.label (hfits piece hpiece)
  exact ⟨_, bind_eq_ok.mpr ⟨fields, hfields, bind_eq_ok.mpr ⟨pieces, hpieces, rfl⟩⟩⟩

theorem mem_of_first? {rs : List Rule} {r : Rule} (h : Rule.first? ctx op rs = .ok (some r)) :
    r ∈ rs := by
  induction rs with
  | nil => cases h
  | cons r' rs ih =>
    obtain ⟨applies, -, h⟩ := bind_eq_ok.mp h
    cases applies with
    | true =>
      cases h
      exact List.mem_cons_self
    | false => exact List.mem_cons_of_mem _ (ih h)

/-- Where one of the rules has no condition, the rules do not run out. -/
theorem first?_ne_none {rs : List Rule}
    (hrs : rs.any (fun r => !r.postgresOnly && r.condition == .always) = true) :
    Rule.first? ctx op rs ≠ .ok none := by
  induction rs with
  | nil => cases hrs
  | cons r rs ih =>
    intro h
    obtain ⟨applies, hr, h⟩ := bind_eq_ok.mp h
    cases applies with
    | true => cases h
    | false =>
      rw [List.any_cons, Bool.or_eq_true] at hrs
      rcases hrs with hcatch | hrs
      · simp only [Bool.and_eq_true, Bool.not_eq_true', beq_iff_eq] at hcatch
        rw [Rule.appliesTo, hcatch.1, hcatch.2] at hr
        cases hr
      · exact ih hrs h

end Rule

/-! ## Verdicts -/

section
variable {ctx : Context} {kb : KnowledgeBase} {op : Operation}

/-- The verdict about an operation is that of its ruling. -/
theorem classify_eq_ok (h : op.isTyped = true) {v : Verdict} :
    (classify Rule.table ctx kb op).outcome = .ok v ↔
      ∃ ruling, Ruling.of Rule.table ctx kb op = .ok ruling ∧ ruling.verdict = v := by
  obtain ⟨description, hdescription⟩ := Operation.describe_total h
  simp [classify, Traced.outcome_bind_eq_ok, hdescription, -Traced.outcome_bind]

/-- The verdict where a rule applies is that of the rule. -/
theorem classify_of_first? (kb : KnowledgeBase) (h : op.isTyped = true) {r : Rule}
    (hr : Rule.first? ctx op (Rule.forKind Rule.table op.kind) = .ok (some r)) :
    ∃ rationale, (classify Rule.table ctx kb op).outcome =
      .ok ⟨r.status, rationale, r.remedy, lockFor kb ctx.engine op, r.id, false⟩ := by
  obtain ⟨rationale, hrationale⟩ := Rule.explain_total ctx h (Rule.mem_of_first? hr)
  have hverdict : r.verdict ctx (lockFor kb ctx.engine op) op =
      .ok ⟨r.status, rationale, r.remedy, lockFor kb ctx.engine op, r.id, false⟩ :=
    bind_eq_ok.mpr ⟨rationale, hrationale, rfl⟩
  refine ⟨rationale, (classify_eq_ok h).mpr ?_⟩
  rw [Ruling.of, hr]
  exact ⟨_, bind_eq_ok.mpr ⟨_, hverdict, rfl⟩, rfl⟩

/-- The verdict where it cannot be told whether a rule applies. -/
theorem classify_of_unknown (h : op.isTyped = true) {u : UnknownBehavior}
    (hu : Rule.first? ctx op (Rule.forKind Rule.table op.kind) = .error (.unknownBehavior u)) :
    (classify Rule.table ctx kb op).outcome =
      .ok (Ruling.unknown u (lockFor kb ctx.engine op)).verdict := by
  rw [classify_eq_ok h, Ruling.of, hu]
  exact ⟨_, rfl, rfl⟩

/-- What the rules say about an operation in the end: that it is conditionally safe where they
cannot tell, and their decision otherwise. -/
def Rule.judgement (ctx : Context) (op : Operation) : Outcome (Status × String) :=
  match Rule.decision ctx op with
  | .error (.unknownBehavior _) => .ok (.conditionallySafe, unknownBehaviorRule)
  | .error failure => .error failure
  | .ok none => .error (.uncovered op.kind)
  | .ok (some decided) => .ok decided

/-- The verdict about a typed operation has the status and the rule that the rules have come to, or
there is none for the reason for which they have come to nothing. -/
theorem classify_judged (ctx : Context) (kb : KnowledgeBase) (h : op.isTyped = true) :
    Alike (fun v judged => (v.status, v.rule) = judged ∧ v.assured = false)
      (classify Rule.table ctx kb op).outcome (Rule.judgement ctx op) := by
  rw [Rule.judgement, Rule.decision]
  cases hfirst : Rule.first? ctx op (Rule.forKind Rule.table op.kind) with
  | error failure =>
    cases failure
    case unknownBehavior u =>
      rw [classify_of_unknown h hfirst]
      exact .ok ⟨rfl, rfl⟩
    all_goals
      rw [classify, Traced.outcome_bind, Traced.outcome_liftM, Ruling.of, hfirst]
      exact .error _
  | ok found =>
    cases found with
    | none => exact absurd hfirst (Rule.first?_ne_none (Rule.exists_catch_all op.kind))
    | some r =>
      obtain ⟨rationale, hrationale⟩ := classify_of_first? kb h hfirst
      rw [hrationale]
      exact .ok ⟨rfl, rfl⟩

end

end MigrationSafety
