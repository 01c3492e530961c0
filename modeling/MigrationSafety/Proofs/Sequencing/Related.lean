import MigrationSafety.Proofs.Rule.Version
import MigrationSafety.Proofs.Sequencing.Corrected
import MigrationSafety.Proofs.Sequencing.Typed

/-!
# The second pass over two lots of verdicts

The verdicts about a plan for two versions of an engine differ only where one of them names a danger
that does not matter for a new table. The second pass corrects both lots place by place. It finds
the same violations for both, and leaves the verdicts at a place with the same status unless the
first one still names its danger.

* `BeforePass`, `AfterPass`: how the verdicts for two versions may differ;
* `status_of_mayDiffer`: what the second pass makes of two verdicts at one place;
* `sequence_related`: what it makes of two lots of verdicts.
-/

namespace MigrationSafety

/-- Verdicts before the second pass, for two versions of an engine. -/
structure BeforePass (danger : Status) (v w : Verdict) : Prop where
  judged : MayDiffer danger (v.status, v.rule) (w.status, w.rule)
  assured : v.assured = w.assured

/-- Verdicts after the second pass, for two versions of an engine. -/
structure AfterPass (danger : Status) (v w : Verdict) : Prop where
  status : v.status = w.status ∨ v.status = danger
  assured : v.assured = w.assured

/-! ## One place -/

section
variable {known : NotNullState} {op : Operation} {created : List Value} {v w v' w' : Verdict}

/-- On a new table both passes make safe what does not matter there. -/
theorem status_of_safeOnNewTable (hnew : op.onNewTable created = true)
    (hv : SafeOnNewTable (v.status, v.rule)) (h : Corrected known op created v v') :
    v'.status = .safe := by
  cases h with
  | newTable => rfl
  | afterCheck => rfl
  | withoutCheck hkept _ hrule =>
    exact absurd hnew (Bool.eq_false_iff.mp (not_onNewTable_of_pending hkept hrule))
  | kept hkept =>
    rcases hv with hexempt | ⟨hsafe, -⟩
    · exact absurd ⟨hnew, List.contains_iff_mem.mp hexempt⟩ hkept
    · exact hsafe

/-- On any other table both passes keep what asks nothing about NOT NULL. -/
theorem Corrected.eq_of_not_onNewTable (h : Corrected known op created v v')
    (hnew : op.onNewTable created = false) (hasks : v.rule ≠ pendingNotNullRule) : v' = v := by
  cases h with
  | newTable hexempt => exact absurd hexempt (not_isExempt_of_not_onNewTable hnew)
  | afterCheck _ _ hrule => exact absurd hrule hasks
  | withoutCheck _ _ hrule => exact absurd hrule hasks
  | kept => rfl

/-- Both passes look at the status and the rule of a verdict only. -/
theorem status_of_judged_eq (hjudged : (v.status, v.rule) = (w.status, w.rule))
    (hv : known.answer (exempted v op created) op = .ok v')
    (hw : known.answer (exempted w op created) op = .ok w') : v'.status = w'.status := by
  obtain ⟨hstatus, hrule⟩ := Prod.mk.inj hjudged
  have hexempted : (exempted v op created).status = (exempted w op created).status ∧
      (exempted v op created).rule = (exempted w op created).rule := by
    rw [exempted_eq, exempted_eq, hrule]
    split
    · exact ⟨rfl, rfl⟩
    · exact ⟨hstatus, hrule⟩
  rcases NotNullState.answer_cases hv with ⟨rfl, hno⟩ | ⟨table, column, _, hop, hpending, -, -, rfl⟩
  · rcases NotNullState.answer_cases hw with ⟨rfl, -⟩ | ⟨_, _, _, hop, hpending, -⟩
    · exact hexempted.1
    · exact absurd (hexempted.2.trans hpending) (hno _ _ _ hop)
  · rcases NotNullState.answer_cases hw with ⟨-, hno⟩ | ⟨table', column', _, hop', -, -, -, rfl⟩
    · exact absurd (hexempted.2.symm.trans hpending) (hno _ _ _ hop)
    · rw [hop] at hop'
      cases hop'
      split <;> rfl

/-- What the second pass makes of two verdicts at one place. -/
theorem status_of_mayDiffer {danger : Status}
    (h : MayDiffer danger (v.status, v.rule) (w.status, w.rule))
    (hv : known.answer (exempted v op created) op = .ok v')
    (hw : known.answer (exempted w op created) op = .ok w') :
    v'.status = w'.status ∨ v'.status = danger := by
  rcases h with hsame | ⟨⟨hstatus, hexempt, hasks⟩, hsafe⟩
  · exact .inl (status_of_judged_eq hsame hv hw)
  · cases hnew : op.onNewTable created with
    | true =>
      rw [status_of_safeOnNewTable hnew (.inl hexempt) (corrected_of_answer hv),
        status_of_safeOnNewTable hnew hsafe (corrected_of_answer hw)]
      exact .inl rfl
    | false =>
      rw [(corrected_of_answer hv).eq_of_not_onNewTable hnew hasks]
      exact .inr hstatus

end

/-! ## All places -/

/-- Rows of one shape are related if what stands at each place is. -/
theorem forall₂_of_cells {α β : Type} {R : α → β → Prop} {rows : List (List α)}
    {rows' : List (List β)} (hshape : rows.map List.length = rows'.map List.length)
    (h : ∀ i j a b, cell? rows i j = some a → cell? rows' i j = some b → R a b) :
    List.Forall₂ (List.Forall₂ R) rows rows' := by
  have hlength : rows.length = rows'.length := by
    simpa only [List.length_map] using congrArg List.length hshape
  refine List.forall₂_iff_get.mpr ⟨hlength, fun i hi hi' => ?_⟩
  have hrow : rows[i].length = rows'[i].length := by
    have hsame := congrArg (·[i]?) hshape
    simpa [hi, hi'] using hsame
  refine List.forall₂_iff_get.mpr ⟨hrow, fun j hj hj' => ?_⟩
  exact h i j _ _ (cell?_eq_some.mpr ⟨_, List.getElem?_eq_getElem hi, List.getElem?_eq_getElem hj⟩)
    (cell?_eq_some.mpr ⟨_, List.getElem?_eq_getElem hi', List.getElem?_eq_getElem hj'⟩)

theorem cell?_of_forall₂ {α β : Type} {R : α → β → Prop} {rows : List (List α)}
    {rows' : List (List β)} (h : List.Forall₂ (List.Forall₂ R) rows rows') {i j : Nat} {a : α}
    (ha : cell? rows i j = some a) : ∃ b, cell? rows' i j = some b ∧ R a b := by
  obtain ⟨row, hi, hj⟩ := cell?_eq_some.mp ha
  obtain ⟨row', hi', hrow⟩ := getElem?_of_forall₂ h hi
  obtain ⟨b, hj', hab⟩ := getElem?_of_forall₂ hrow hj
  exact ⟨b, cell?_eq_some.mpr ⟨row', hi', hj'⟩, hab⟩

/-- The second pass over a typed plan with two lots of verdicts, where those at the same place may
differ in a danger that does not matter for a new table. -/
theorem sequence_related {p : Plan} {verdicts verdicts' : List (List Verdict)} {danger : Status}
    (hp : p.isTyped = true) (ha : aligned p verdicts = true)
    (hverdicts : List.Forall₂ (List.Forall₂ (BeforePass danger)) verdicts verdicts') :
    ∃ s s', (sequence p verdicts).outcome = .ok s ∧ (sequence p verdicts').outcome = .ok s' ∧
      List.Forall₂ (List.Forall₂ (AfterPass danger)) s.verdicts s'.verdicts ∧
      s.violations = s'.violations := by
  have hlengths : verdicts.map List.length = verdicts'.map List.length :=
    map_eq_of_forall₂ hverdicts fun _ _ hrow => hrow.length_eq
  have ha' : aligned p verdicts' = true := by
    rw [aligned_iff, ← hlengths]
    exact aligned_iff.mp ha
  obtain ⟨s, hs⟩ := sequence_total hp ha
  obtain ⟨s', hs'⟩ := sequence_total hp ha'
  refine ⟨s, s', hs, hs', ?_, violations_unique hs hs'⟩
  have hshape := aligned_iff.mp (aligned_of_sequence hs)
  refine forall₂_of_cells (hshape.symm.trans (aligned_iff.mp (aligned_of_sequence hs'))) ?_
  intro i j x y hx hy
  obtain ⟨op, hop⟩ := exists_cell_of_shape hshape.symm hx
  obtain ⟨v, hv⟩ := exists_cell_of_shape (aligned_iff.mp ha) hop
  obtain ⟨w, hw, hvw⟩ := cell?_of_forall₂ hverdicts hv
  obtain ⟨known, hrun, hanswer⟩ := answer_of_sequence hs hop hv hx
  obtain ⟨known', hrun', hanswer'⟩ := answer_of_sequence hs' hop hw hy
  rw [hrun, Except.ok.injEq] at hrun'
  subst hrun'
  refine ⟨status_of_mayDiffer hvw.judged hanswer hanswer', ?_⟩
  rw [(corrected_of_answer hanswer).keeps.2.2, (corrected_of_answer hanswer').keeps.2.2,
    hvw.assured]

end MigrationSafety
