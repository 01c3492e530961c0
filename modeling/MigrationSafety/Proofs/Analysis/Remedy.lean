import MigrationSafety.Proofs.Analysis.Report
import MigrationSafety.Proofs.Sequencing.NotNull

/-!
# Remedies in reports

The table of rules names a remedy for every unsafe change and none for a safe one. The second pass
corrects the status, the rule and the rationale of a verdict, but not its remedy. So an unsafe result
always names a remedy; but a safe one may too, where the second pass has found that the danger which
it is a remedy for does not matter.

* `Verdict.Remedied`, `remedied_of_classify`: the remedies in verdicts of the rules;
* `remedy_of_answer`: the second pass keeps the remedy of a verdict;
* `exempt_of_safe`: which verdicts it makes safe;
* `remedies_of_analyze`: the remedies in a report;
* `safe_with_remedy`: a safe result with a remedy.
-/

namespace MigrationSafety

/-! ## Verdicts of the rules -/

/-- A verdict has a remedy if it is unsafe and none if it is safe. One that the second pass may make
safe has a remedy unless it is safe already, or it is not known how the engine behaves. -/
structure Verdict.Remedied (v : Verdict) : Prop where
  ofUnsafe : v.status = .unsafeChange → v.remedy ≠ .nothing
  ofSafe : v.status = .safe → v.remedy = .nothing
  ofExempt : v.rule ∈ exemptRules → v.rule ≠ unknownBehaviorRule → v.status ≠ .safe →
    v.remedy ≠ .nothing
  ofUnknown : v.rule = unknownBehaviorRule → v.remedy = .nothing
  ofPending : v.rule = pendingNotNullRule → v.status ≠ .safe

/-- The rules of the table name remedies in this way. -/
theorem Rule.table_remedied : ∀ r ∈ Rule.table,
    (r.status = .unsafeChange → r.remedy ≠ .nothing) ∧ (r.status = .safe → r.remedy = .nothing) ∧
      (r.id ∈ exemptRules → r.status ≠ .safe → r.remedy ≠ .nothing) ∧
      r.id ≠ unknownBehaviorRule ∧ (r.id = pendingNotNullRule → r.status ≠ .safe) := by
  decide

theorem remedied_of_classify {ctx : Context} {kb : KnowledgeBase} {op : Operation} {v : Verdict}
    (h : (classify Rule.table ctx kb op).outcome = .ok v) : v.Remedied := by
  rcases classify_inversion h with ⟨u, -, rfl⟩ | ⟨r, rationale, hfirst, rfl⟩
  · exact ⟨nofun, nofun, fun _ hknown => absurd rfl hknown, fun _ => rfl, nofun⟩
  · have hr : r ∈ Rule.table := (List.mem_filter.mp (Rule.mem_of_first? hfirst)).1
    obtain ⟨hdanger, hsafe, hexempt, hknown, hpending⟩ := Rule.table_remedied r hr
    exact ⟨hdanger, hsafe, fun hrule _ => hexempt hrule, fun hrule => absurd hrule hknown, hpending⟩

/-! ## The second pass -/

section
variable {known : NotNullState} {v w : Verdict} {op : Operation} {created : List Value}

/-- The second pass keeps the remedy of a verdict. -/
theorem remedy_of_answer (h : known.answer (exempted v op created) op = .ok w) :
    w.remedy = v.remedy :=
  (corrected_of_answer h).keeps.1

/-- A verdict that the second pass makes safe is on a new table or after a validated check, and the
rule that it had before is one whose verdicts do not matter there. -/
theorem exempt_of_safe (h : known.answer (exempted v op created) op = .ok w)
    (hw : w.status = .safe) :
    v.status = .safe ∨
      v.rule ∈ exemptRules ∧ (w.rule = newTableRule ∨ w.rule = afterCheckRule) := by
  cases corrected_of_answer h with
  | newTable hexempt => exact .inr ⟨hexempt.2, .inl rfl⟩
  | afterCheck _ _ hrule =>
    exact .inr ⟨hrule ▸ (by decide : pendingNotNullRule ∈ exemptRules), .inr rfl⟩
  | withoutCheck => cases hw
  | kept => exact .inl hw

/-- A verdict that is unsafe after the second pass was so before, or was a question about NOT
NULL. -/
theorem pending_of_unsafe (h : known.answer (exempted v op created) op = .ok w)
    (hw : w.status = .unsafeChange) : v.status = .unsafeChange ∨ v.rule = pendingNotNullRule := by
  cases corrected_of_answer h with
  | newTable => cases hw
  | afterCheck => cases hw
  | withoutCheck _ _ hrule => exact .inr hrule
  | kept => exact .inl hw

end

/-! ## Reports -/

/-- An unsafe result names a remedy. Every result names the remedy that the rules have named. A safe
one names none if and only if the rules have found it safe themselves, or could not tell; any other
safe result is about a new table or comes after a validated check. -/
theorem remedies_of_analyze {config : Config} {kb : KnowledgeBase} {engine : Engine} {p : Plan}
    {r : Report} (h : (analyze config kb engine p).outcome = .ok r) {x : Result}
    (hx : x ∈ r.results) :
    (x.verdict.status = .unsafeChange → x.verdict.remedy ≠ .nothing) ∧
    ∃ (i j : Nat) (m : Migration) (v : Verdict), p.migrations[i]? = some m ∧
      m.operations[j]? = some x.operation ∧ x.ref = ⟨i, j, m.name⟩ ∧
      (classify Rule.table ⟨engine, m.noTransaction, config.thresholds⟩ kb x.operation).outcome =
        .ok v ∧
      x.verdict.remedy = v.remedy ∧
      (x.verdict.status = .safe →
        (x.verdict.remedy = .nothing ↔ v.status = .safe ∨ v.rule = unknownBehaviorRule) ∧
        (x.verdict.remedy ≠ .nothing →
          x.verdict.rule = newTableRule ∨ x.verdict.rule = afterCheckRule)) := by
  obtain ⟨i, j, m, op, v, known, w, hm, hop, hclass, -, hanswer, rfl⟩ := verdict_of_result h hx
  have hremedied := remedied_of_classify hclass
  have hremedy := remedy_of_answer hanswer
  refine ⟨fun hdanger => ?_, i, j, m, v, hm, hop, rfl, hclass, hremedy, fun hsafe => ?_⟩
  · show w.remedy ≠ .nothing
    rw [hremedy]
    rcases pending_of_unsafe hanswer hdanger with hv | hpending
    · exact hremedied.ofUnsafe hv
    · have hexempt : v.rule ∈ exemptRules ∧ v.rule ≠ unknownBehaviorRule := by
        rw [hpending]
        decide
      exact hremedied.ofExempt hexempt.1 hexempt.2 (hremedied.ofPending hpending)
  · show (w.remedy = .nothing ↔ _) ∧ (w.remedy ≠ .nothing → _)
    rw [hremedy]
    rcases exempt_of_safe hanswer hsafe with hv | ⟨hexempt, hrule⟩
    · have hnothing := hremedied.ofSafe hv
      exact ⟨iff_of_true hnothing (.inl hv), fun hsome => absurd hnothing hsome⟩
    · refine ⟨⟨fun hnothing => ?_, ?_⟩, fun _ => hrule⟩
      · by_contra hneither
        rw [not_or] at hneither
        exact hremedied.ofExempt hexempt hneither.2 hneither.1 hnothing
      · rintro (hv | hunknown)
        · exact hremedied.ofSafe hv
        · exact hremedied.ofUnknown hunknown

/-- A plan that creates a table and an index on it. -/
def indexOnNewTable : Plan :=
  ⟨[⟨.text "users",
    [.createTable (.text "users") false,
      .createIndex (.text "users") [.text "email"] .null false false],
    false, false, false⟩]⟩

/-- On a new table the index is safe, and its result still says to build it concurrently. -/
theorem analyze_indexOnNewTable :
    ∃ r, (analyze {} .builtIn (Engine.ofKind .postgres) indexOnNewTable).outcome = .ok r ∧
      ∃ x ∈ r.results, x.ref.migration = 0 ∧ x.ref.index = 1 ∧ x.verdict.status = .safe ∧
        x.verdict.rule = newTableRule ∧ x.verdict.remedy = .useConcurrentIndex := by
  refine ⟨_, rfl, ?_⟩
  rw [results_build]
  decide

/-- The remedy is that of the rules, which have not found the index safe. -/
theorem remedies_of_analyze_indexOnNewTable :
    ∃ r, (analyze {} .builtIn (Engine.ofKind .postgres) indexOnNewTable).outcome = .ok r ∧
      ∃ x ∈ r.results, ∃ v : Verdict, x.verdict.remedy = v.remedy ∧ v.status ≠ .safe ∧
        x.verdict.rule = newTableRule := by
  obtain ⟨r, hr, x, hx, -, -, hsafe, hrule, hremedy⟩ := analyze_indexOnNewTable
  obtain ⟨-, i, j, m, v, -, -, -, -, hv, hiff⟩ := remedies_of_analyze hr hx
  refine ⟨r, hr, x, hx, v, hv, fun hvsafe => ?_, hrule⟩
  rw [(hiff hsafe).1.mpr (.inl hvsafe)] at hremedy
  cases hremedy

/-- Not every safe result is without a remedy. -/
theorem safe_with_remedy :
    ¬∀ (config : Config) (kb : KnowledgeBase) (engine : Engine) (p : Plan) (r : Report),
      (analyze config kb engine p).outcome = .ok r →
        ∀ x ∈ r.results, x.verdict.status = .safe → x.verdict.remedy = .nothing := by
  intro h
  obtain ⟨r, hr, x, hx, -, -, hsafe, -, hremedy⟩ := analyze_indexOnNewTable
  cases (h _ _ _ _ r hr x hx hsafe).symm.trans hremedy

end MigrationSafety
