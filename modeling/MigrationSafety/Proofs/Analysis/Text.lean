import MigrationSafety.Proofs.Analysis.Total
import MigrationSafety.Proofs.Report.Text

/-!
# The text of an analysis

The text of the report about a plan lists the operations of the reported migrations in order, each
once, under the names of their migrations. A migration gets a heading of its own unless the one
before it, of those that are reported and have operations, has the same name.

* `Plan.reportedWithOperations`: the migrations that the text is about;
* `describe_of_analyze`: the operations of a report have descriptions, so that there is a text;
* `exists_sections`: the results as sections, one for each of these migrations;
* `toText_of_analyze`: the text, and when it has a heading for each of these migrations;
* `sharedHeading_sameName`: two migrations of one name, one after the other.
-/

namespace MigrationSafety

open Report (Section)

/-- Whether a migration, given with its index, is reported and has operations. -/
def isReportedWithOperations (reported : List Nat) (x : Migration × Nat) : Bool :=
  reported.contains x.2 && !x.1.operations.isEmpty

/-- The migrations that are reported and have operations, with their indexes. -/
def Plan.reportedWithOperations (p : Plan) (reported : List Nat) : List (Migration × Nat) :=
  p.migrations.zipIdx.filter (isReportedWithOperations reported)

theorem Value.eq_text_display {v : Value} (h : v.isText = true) : v = .text v.display :=
  match v with
  | .text _ => rfl

/-- The rules describe an operation before they judge it. -/
theorem describe_of_classify {rules : List Rule} {ctx : Context} {kb : KnowledgeBase}
    {op : Operation} {v : Verdict} (h : (classify rules ctx kb op).outcome = .ok v) :
    ∃ description, op.describe = .ok description := by
  obtain ⟨ruling, -, h⟩ := Traced.outcome_bind_eq_ok.mp h
  obtain ⟨description, hdescription, -⟩ := Traced.outcome_bind_eq_ok.mp h
  exact ⟨description, hdescription⟩

section
variable {config : Config} {kb : KnowledgeBase} {engine : Engine} {p : Plan} {r : Report}

/-- Every operation of a report has a description. -/
theorem describe_of_analyze (h : (analyze config kb engine p).outcome = .ok r) :
    ∃ describe : Result → String, ∀ x ∈ r.results, x.operation.describe = .ok (describe x) := by
  have hdescribed : ∀ x ∈ r.results, ∃ d, x.operation.describe = .ok d := by
    intro x hx
    obtain ⟨_, _, _, op, _, _, _, -, -, hclass, -, -, rfl⟩ := verdict_of_result h hx
    exact describe_of_classify hclass
  choose! describe hdescribe using hdescribed
  exact ⟨describe, hdescribe⟩

/-- The results of a migration with operations as a section. -/
theorem exists_section {m : Migration} {row : List Verdict} (hname : m.name.isText = true)
    (hlength : m.operations.length = row.length) (hops : m.operations ≠ []) (i : Nat) :
    ∃ s : Section, s.name = m.name.display ∧ s.results = m.results i row := by
  have hplaced := Migration.map_placed_results hlength i
  have hnonempty : m.results i row ≠ [] := by
    intro hnil
    rw [hnil] at hplaced
    exact hops (by simpa [Migration.placed] using hplaced.symm)
  have hnamed : ∀ x ∈ m.results i row, x.ref.name = .text m.name.display := by
    intro x hx
    have hmem : x.placed ∈ m.placed i := hplaced ▸ List.mem_map_of_mem hx
    obtain ⟨_, _, -, hsame⟩ := mem_placed.mp hmem
    rw [show x.ref = _ from congrArg PlacedOperation.ref hsame]
    exact Value.eq_text_display hname
  exact ⟨⟨m.name.display, m.results i row, hnonempty, hnamed⟩, rfl, rfl⟩

/-- The results of the reported migrations as sections, one for each migration with operations. -/
theorem exists_sections (reported : List Nat) {rows : List ((Migration × Nat) × List Verdict)}
    (hnames : ∀ x ∈ rows, x.1.1.name.isText = true)
    (hlengths : ∀ x ∈ rows, x.1.1.operations.length = x.2.length) :
    ∃ sections : List Section,
      sections.map (fun s => (s.name, s.results.map Result.placed)) =
        ((rows.map Prod.fst).filter (isReportedWithOperations reported)).map
          (fun x => (x.1.name.display, x.1.placed x.2)) ∧
      sections.flatMap (·.results) =
        rows.flatMap fun ((m, i), row) => if reported.contains i then m.results i row else [] := by
  induction rows with
  | nil => exact ⟨[], rfl, rfl⟩
  | cons x rows ih =>
    obtain ⟨sections, hplaced, hresults⟩ := ih (fun y hy => hnames y (List.mem_cons_of_mem x hy))
      (fun y hy => hlengths y (List.mem_cons_of_mem x hy))
    obtain ⟨⟨m, i⟩, row⟩ := x
    have hlength : m.operations.length = row.length := hlengths _ List.mem_cons_self
    by_cases hkeep : isReportedWithOperations reported (m, i) = true
    · obtain ⟨hreported, hops⟩ := (Bool.and_eq_true _ _).mp hkeep
      obtain ⟨s, hname, hs⟩ := exists_section (hnames _ List.mem_cons_self) hlength
        (by simpa using hops) i
      refine ⟨s :: sections, ?_, ?_⟩
      · rw [List.map_cons, List.map_cons, List.filter_cons_of_pos hkeep, List.map_cons, hplaced,
          hname, hs, Migration.map_placed_results hlength]
      · rw [List.flatMap_cons, List.flatMap_cons, hresults, hs]
        simp only [hreported, if_true]
    · have hnone : (if reported.contains i then m.results i row else []) = [] := by
        split
        · next hreported =>
          have hops : i ∈ reported → m.operations = [] := by
            simpa [isReportedWithOperations] using hkeep
          rw [Migration.results, Migration.placed, hops (List.contains_iff_mem.mp hreported)]
          rfl
        · rfl
      refine ⟨sections, ?_, ?_⟩
      · rw [List.map_cons, List.filter_cons_of_neg hkeep, hplaced]
      · rw [List.flatMap_cons, hresults]
        simp only [hnone, List.nil_append]

/-- The sections have the names of the migrations that they are about. -/
theorem names_of_placed {sections : List Section} {migrations : List (Migration × Nat)}
    (h : sections.map (fun s => (s.name, s.results.map Result.placed)) =
      migrations.map fun x => (x.1.name.display, x.1.placed x.2)) :
    sections.map (·.name) = migrations.map (·.1.name.display) := by
  have hfst := congrArg (List.map Prod.fst) h
  rw [List.map_map, List.map_map] at hfst
  exact hfst

/-- The text of the report about a plan whose migrations have texts as names. The results stand in
sections, one for each reported migration with operations, in the order of the plan and with its
operations in order; an operation is listed by its mark and description, and explained unless it is
safe and only the others are to be. In the text neighbouring sections with one name stand under one
heading. So it has a heading for each of these migrations, with its operations and no others below,
exactly if no neighbours among them have one name. -/
theorem toText_of_analyze (h : (analyze config kb engine p).outcome = .ok r) {reported : List Nat}
    (hreported : config.reported (p.migrations.map (·.name)) = .ok reported)
    (hnames : ∀ m ∈ p.migrations, m.name.isText = true) (verbose : Bool) :
    ∃ (sections : List Section) (describe : Result → String),
      sections.map (fun s => (s.name, s.results.map Result.placed)) =
        (p.reportedWithOperations reported).map (fun x => (x.1.name.display, x.1.placed x.2)) ∧
      sections.flatMap (·.results) = r.results ∧
      (∀ x ∈ r.results, x.operation.describe = .ok (describe x)) ∧
      r.toText verbose =
        .ok (r.layout (fun x => x.entry verbose (describe x)) (Report.merged sections)) ∧
      (r.toText verbose = .ok (r.layout (fun x => x.entry verbose (describe x)) sections) ↔
        ((p.reportedWithOperations reported).map (·.1.name.display)).IsChain (· ≠ ·)) := by
  obtain ⟨describe, hdescribe⟩ := describe_of_analyze h
  obtain ⟨reported', verdicts, s, hreported', -, hs, hr⟩ := analyze_eq_ok.mp h
  rw [hreported, Except.ok.injEq] at hreported'
  subst hreported'
  have haligned := aligned_of_sequence hs
  have hrow : ∀ x ∈ p.migrations.zipIdx.zip s.verdicts, x.1.1.name.isText = true := by
    intro x hx
    exact hnames _ (List.fst_mem_of_mem_zipIdx (List.of_mem_zip hx).1)
  obtain ⟨sections, hplaced, hresults⟩ :=
    exists_sections reported hrow (length_of_aligned haligned)
  rw [map_fst_zip_of_aligned haligned, ← Plan.reportedWithOperations] at hplaced
  have hall : sections.flatMap (·.results) = r.results := by
    rw [← hr, results_build]
    exact hresults
  have htext := Report.toText_sections hall
    fun x hx => Result.lines_of_describe (hdescribe x hx) verbose
  refine ⟨sections, describe, hplaced, hall, hdescribe, htext, ?_⟩
  rw [htext, Except.ok.injEq, Report.layout_merged_eq_iff, Report.Parted, names_of_placed hplaced]

end

/-- A plan with two migrations that have operations, and one without operations between them. -/
def emptyBetween : Plan :=
  ⟨[⟨.text "users", [.createTable (.text "users") false], false, false, false⟩,
    ⟨.text "notes", [], false, false, false⟩,
    ⟨.text "orders", [.createTable (.text "orders") false], false, false, false⟩]⟩

/-- The migration without operations has no heading, and the others have one each. -/
theorem toText_of_analyze_emptyBetween :
    ∃ r, (analyze {} .builtIn (Engine.ofKind .postgres) emptyBetween).outcome = .ok r ∧
      ∃ (sections : List Section) (describe : Result → String),
        sections.map (·.name) = ["users", "orders"] ∧
        r.toText true = .ok (r.layout (fun x => x.entry true (describe x)) sections) := by
  have hreported : ({} : Config).reported (emptyBetween.migrations.map (·.name)) =
      .ok [0, 1, 2] := rfl
  obtain ⟨r, hr⟩ : ∃ r, (analyze {} .builtIn (Engine.ofKind .postgres) emptyBetween).outcome =
      .ok r := ⟨_, rfl⟩
  refine ⟨r, hr, ?_⟩
  obtain ⟨sections, describe, hplaced, -, -, -, htext⟩ :=
    toText_of_analyze hr hreported (by decide) true
  exact ⟨sections, describe, names_of_placed hplaced, htext.mpr (by decide)⟩

/-- A plan with two migrations of one name, each with an operation. -/
def sameName : Plan :=
  ⟨[⟨.text "users", [.addColumn (.text "users") (.text "email") (.text "text")],
      false, false, false⟩,
    ⟨.text "users", [.addColumn (.text "users") (.text "phone") (.text "text")],
      false, false, false⟩]⟩

/-- Migrations of one name share a heading: there is no text with a section for each of them. -/
theorem sharedHeading_sameName :
    ∃ r, (analyze {} .builtIn (Engine.ofKind .postgres) sameName).outcome = .ok r ∧
      Report.resultLines false .null r.results =
        .ok ["users:", "  [ok] Add column users.email (text)",
          "  [ok] Add column users.phone (text)"] ∧
      ¬∃ (sections : List Section) (describe : Result → String),
        sections.map (fun s => (s.name, s.results.map Result.placed)) =
          (sameName.reportedWithOperations [0, 1]).map
            (fun x => (x.1.name.display, x.1.placed x.2)) ∧
        sections.flatMap (·.results) = r.results ∧
        (∀ x ∈ r.results, x.operation.describe = .ok (describe x)) ∧
        r.toText false = .ok (r.layout (fun x => x.entry false (describe x)) sections) := by
  refine ⟨_, rfl, ?_, ?_⟩
  · rw [results_build]
    rfl
  · rintro ⟨sections, describe, hplaced, hall, hdescribe, htext⟩
    have hmerged := Report.toText_sections hall
      fun x hx => Result.lines_of_describe (hdescribe x hx) false
    rw [hmerged, Except.ok.injEq, Report.layout_merged_eq_iff, Report.Parted,
      names_of_placed hplaced] at htext
    exact absurd htext (by decide)

end MigrationSafety
