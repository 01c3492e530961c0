import Mathlib.Data.List.DropRight
import Mathlib.Data.List.GetD
import MigrationSafety.Engine.Basic

/-!
# The order of versions

Two versions are compared after both are filled up with zeros to the length of the longer one. How
far they are filled up does not matter beyond that, so three versions can be compared at one length,
and the order is transitive. It is the order of the sequences that go on with zeros for ever, in
which the first difference decides.

* `reaches_eq`: the comparison at any length that has room for both;
* `atLeast_trans`: the order is transitive;
* `reaches_iff`: the comparison by the first difference;
* `reaches_both_iff`: the versions that reach each other are those that differ in trailing zeros
  only;
* `reaches_totalPreorder`: all of it, with the question that is put to an engine.
-/

namespace MigrationSafety.Version

theorem notBelow_self (cs : List Nat) : notBelow cs cs = true := by
  induction cs with
  | nil => rfl
  | cons c cs ih => simp [notBelow, ih]

/-- What follows in both lists decides only between lists of one length that are equal. -/
theorem notBelow_append_self {as bs : List Nat} (h : as.length = bs.length) (cs : List Nat) :
    notBelow (as ++ cs) (bs ++ cs) = notBelow as bs := by
  induction as generalizing bs with
  | nil =>
    rw [List.length_nil, eq_comm, List.length_eq_zero_iff] at h
    rw [h]
    exact notBelow_self cs
  | cons a as ih =>
    cases bs with
    | nil => simp at h
    | cons b bs =>
      simp only [List.length_cons, Nat.add_right_cancel_iff] at h
      simp only [List.cons_append, notBelow, ih h]

theorem notBelow_trans {as bs cs : List Nat} (hab : as.length = bs.length)
    (hbc : bs.length = cs.length) (h₁ : notBelow as bs = true) (h₂ : notBelow bs cs = true) :
    notBelow as cs = true := by
  induction as generalizing bs cs with
  | nil => rfl
  | cons a as ih =>
    cases bs with
    | nil => simp at hab
    | cons b bs =>
      cases cs with
      | nil => rfl
      | cons c cs =>
        simp only [List.length_cons, Nat.add_right_cancel_iff] at hab hbc
        have ih' := ih hab hbc
        simp only [notBelow, beq_iff_eq] at h₁ h₂ ⊢
        -- The first difference is that of the pair which differs earlier.
        by_cases hab' : a = b <;> by_cases hbc' : b = c
        · simp_all
        · simp_all
        · simp_all
        · simp only [hab', hbc', if_false, decide_eq_true_eq] at h₁ h₂
          have hac : a ≠ c := by omega
          simp only [hac, if_false, decide_eq_true_eq]
          omega

theorem length_pad_of_le {n : Nat} {cs : List Nat} (h : cs.length ≤ n) : (pad n cs).length = n := by
  rw [length_pad, Nat.max_eq_left h]

theorem pad_of_le {n m : Nat} {cs : List Nat} (hm : cs.length ≤ m) (hn : m ≤ n) :
    pad n cs = pad m cs ++ List.replicate (n - m) 0 := by
  rw [pad, pad, List.append_assoc, List.replicate_append_replicate]
  congr 2
  omega

/-- Lists are compared at any length that has room for both. -/
theorem reaches_eq {n : Nat} {as bs : List Nat} (ha : as.length ≤ n) (hb : bs.length ≤ n) :
    reaches as bs = notBelow (pad n as) (pad n bs) := by
  have hn : max as.length bs.length ≤ n := Nat.max_le.mpr ⟨ha, hb⟩
  have hwidth : (pad (max as.length bs.length) as).length =
      (pad (max as.length bs.length) bs).length := by
    rw [length_pad_of_le (Nat.le_max_left _ _), length_pad_of_le (Nat.le_max_right _ _)]
  rw [pad_of_le (Nat.le_max_left _ _) hn, pad_of_le (Nat.le_max_right _ _) hn,
    notBelow_append_self hwidth]
  rfl

theorem reaches_trans {as bs cs : List Nat} (h₁ : reaches as bs = true)
    (h₂ : reaches bs cs = true) : reaches as cs = true := by
  let n := max as.length (max bs.length cs.length)
  have ha : as.length ≤ n := by omega
  have hb : bs.length ≤ n := by omega
  have hc : cs.length ≤ n := by omega
  rw [reaches_eq ha hb] at h₁
  rw [reaches_eq hb hc] at h₂
  rw [reaches_eq ha hc]
  refine notBelow_trans ?_ ?_ h₁ h₂
  · rw [length_pad_of_le ha, length_pad_of_le hb]
  · rw [length_pad_of_le hb, length_pad_of_le hc]

/-- A version that reaches another one reaches all that this one reaches. -/
theorem atLeast_trans {u v w : Version} (h₁ : u.atLeast v = true) (h₂ : v.atLeast w = true) :
    u.atLeast w = true :=
  reaches_trans h₁ h₂

/-! ## Versions that reach each other -/

theorem notBelow_total (as bs : List Nat) : notBelow as bs = true ∨ notBelow bs as = true := by
  induction as generalizing bs with
  | nil => exact .inl rfl
  | cons a as ih =>
    cases bs with
    | nil => exact .inl rfl
    | cons b bs =>
      simp only [notBelow, beq_iff_eq]
      by_cases h : a = b
      · simpa only [h, if_true] using ih bs
      · simp only [h, Ne.symm h, if_false, decide_eq_true_eq]
        omega

/-- Of any two versions, one reaches the other. -/
theorem reaches_total (as bs : List Nat) : reaches as bs = true ∨ reaches bs as = true := by
  rw [reaches_eq (Nat.le_max_left _ _) (Nat.le_max_right as.length bs.length),
    reaches_eq (Nat.le_max_right _ _) (Nat.le_max_left as.length bs.length)]
  exact notBelow_total _ _

theorem notBelow_antisymm {as bs : List Nat} (hlength : as.length = bs.length)
    (h₁ : notBelow as bs = true) (h₂ : notBelow bs as = true) : as = bs := by
  induction as generalizing bs with
  | nil => exact (List.length_eq_zero_iff.mp hlength.symm).symm
  | cons a as ih =>
    cases bs with
    | nil => simp at hlength
    | cons b bs =>
      simp only [notBelow, beq_iff_eq] at h₁ h₂
      by_cases h : a = b
      · simp only [h, if_true] at h₁ h₂
        rw [h, ih (Nat.succ.inj hlength) h₁ h₂]
      · simp only [h, Ne.symm h, if_false, decide_eq_true_eq] at h₁ h₂
        omega

/-- The component of a version at a place; behind its end there are zeros. -/
def component (cs : List Nat) (i : Nat) : Nat :=
  cs.getD i 0

theorem component_append_zeros (cs : List Nat) (k i : Nat) :
    component (cs ++ List.replicate k 0) i = component cs i := by
  rcases Nat.lt_or_ge i cs.length with hi | hi
  · exact List.getD_append cs _ 0 i hi
  · rw [component, List.getD_append_right cs _ 0 i hi, List.getD_eq_getElem?_getD,
      List.getElem?_getD_replicate_default_eq, component, List.getD_eq_default cs 0 hi]

theorem component_pad (n : Nat) (cs : List Nat) (i : Nat) :
    component (pad n cs) i = component cs i :=
  component_append_zeros cs _ i

/-- Versions are the same at a length that has room for both if their components are. -/
theorem pad_eq_pad_iff {n : Nat} {as bs : List Nat} (ha : as.length ≤ n) (hb : bs.length ≤ n) :
    pad n as = pad n bs ↔ ∀ i, component as i = component bs i := by
  constructor
  · intro h i
    rw [← component_pad n as, h, component_pad]
  · intro h
    have hlength : (pad n as).length = (pad n bs).length := by
      rw [length_pad_of_le ha, length_pad_of_le hb]
    refine List.ext_getElem hlength fun i hia hib => ?_
    rw [← List.getD_eq_getElem _ 0 hia, ← List.getD_eq_getElem _ 0 hib]
    exact (component_pad n as i).trans ((h i).trans (component_pad n bs i).symm)

/-- Two versions reach each other if all their components are equal. -/
theorem reaches_both_iff_component {as bs : List Nat} :
    reaches as bs = true ∧ reaches bs as = true ↔ ∀ i, component as i = component bs i := by
  have ha : as.length ≤ max as.length bs.length := Nat.le_max_left _ _
  have hb : bs.length ≤ max as.length bs.length := Nat.le_max_right _ _
  rw [reaches_eq ha hb, reaches_eq hb ha, ← pad_eq_pad_iff ha hb]
  constructor
  · intro ⟨h₁, h₂⟩
    refine notBelow_antisymm ?_ h₁ h₂
    rw [length_pad_of_le ha, length_pad_of_le hb]
  · intro h
    rw [h]
    exact ⟨notBelow_self _, notBelow_self _⟩

/-- A version without the zeros at its end. -/
def significant (cs : List Nat) : List Nat :=
  cs.rdropWhile (· == 0)

theorem significant_concat_zero (cs : List Nat) : significant (cs ++ [0]) = significant cs :=
  List.rdropWhile_concat_pos _ _ _ rfl

theorem significant_concat {c : Nat} (hc : c ≠ 0) (cs : List Nat) :
    significant (cs ++ [c]) = cs ++ [c] :=
  List.rdropWhile_concat_neg _ _ _ (by simpa using hc)

theorem component_significant (cs : List Nat) (i : Nat) :
    component (significant cs) i = component cs i := by
  induction cs using List.reverseRecOn with
  | nil => rfl
  | append_singleton cs c ih =>
    by_cases hc : c = 0
    · rw [hc, significant_concat_zero, ih]
      exact (component_append_zeros cs 1 i).symm
    · rw [significant_concat hc]

theorem significant_append_zeros (cs : List Nat) (k : Nat) :
    significant (cs ++ List.replicate k 0) = significant cs := by
  induction k with
  | zero => rw [List.replicate_zero, List.append_nil]
  | succ k ih =>
    rw [List.replicate_succ', ← List.append_assoc, significant_concat_zero, ih]

/-- Versions are equal without the zeros at their ends if their components are. -/
theorem significant_eq_iff {as bs : List Nat} :
    significant as = significant bs ↔ ∀ i, component as i = component bs i := by
  constructor
  · intro h i
    rw [← component_significant as, h, component_significant]
  · intro h
    have hpad := (pad_eq_pad_iff (Nat.le_max_left as.length bs.length) (Nat.le_max_right _ _)).mpr h
    calc significant as
        = significant (pad (max as.length bs.length) as) := (significant_append_zeros as _).symm
      _ = significant (pad (max as.length bs.length) bs) := by rw [hpad]
      _ = significant bs := significant_append_zeros bs _

/-- Two versions reach each other if they are equal without the zeros at their ends. -/
theorem reaches_both_iff {as bs : List Nat} :
    reaches as bs = true ∧ reaches bs as = true ↔ significant as = significant bs :=
  reaches_both_iff_component.trans significant_eq_iff.symm

/-! ## The first difference -/

/-- At the first place where the components of two versions differ, the first version has the larger
one. -/
def Exceeds (as bs : List Nat) : Prop :=
  ∃ n, (∀ i < n, component as i = component bs i) ∧ component bs n < component as n

theorem exceeds_cons {a b : Nat} {as bs : List Nat} :
    Exceeds (a :: as) (b :: bs) ↔ b < a ∨ a = b ∧ Exceeds as bs := by
  constructor
  · intro ⟨n, hsame, hlarger⟩
    cases n with
    | zero => exact .inl hlarger
    | succ n =>
      refine .inr ⟨hsame 0 (Nat.succ_pos n), n, fun i hi => ?_, hlarger⟩
      exact hsame (i + 1) (Nat.succ_lt_succ hi)
  · rintro (hlarger | ⟨rfl, n, hsame, hlarger⟩)
    · exact ⟨0, fun i hi => absurd hi (Nat.not_lt_zero i), hlarger⟩
    · refine ⟨n + 1, fun i hi => ?_, hlarger⟩
      cases i with
      | zero => rfl
      | succ i => exact hsame i (Nat.lt_of_succ_lt_succ hi)

theorem notBelow_iff {as bs : List Nat} (hlength : as.length = bs.length) :
    notBelow as bs = true ↔ as = bs ∨ Exceeds as bs := by
  induction as generalizing bs with
  | nil =>
    rw [List.length_eq_zero_iff.mp hlength.symm]
    exact iff_of_true rfl (.inl rfl)
  | cons a as ih =>
    cases bs with
    | nil => simp at hlength
    | cons b bs =>
      rw [exceeds_cons, List.cons.injEq, notBelow]
      by_cases h : a = b
      · rw [if_pos (beq_iff_eq.mpr h), ih (Nat.succ.inj hlength)]
        simp only [h, true_and, Nat.lt_irrefl, false_or]
      · rw [if_neg (by simpa using h), decide_eq_true_eq]
        simp only [h, false_and, false_or, or_false]

theorem exceeds_pad {n : Nat} {as bs : List Nat} :
    Exceeds (pad n as) (pad n bs) ↔ Exceeds as bs := by
  simp only [Exceeds, component_pad]

/-- A version reaches another one if their components never differ, or if it has the larger one
where they first do. -/
theorem reaches_iff {as bs : List Nat} :
    reaches as bs = true ↔ (∀ i, component as i = component bs i) ∨ Exceeds as bs := by
  have ha : as.length ≤ max as.length bs.length := Nat.le_max_left _ _
  have hb : bs.length ≤ max as.length bs.length := Nat.le_max_right _ _
  rw [reaches_eq ha hb, notBelow_iff, pad_eq_pad_iff ha hb, exceeds_pad]
  rw [length_pad_of_le ha, length_pad_of_le hb]

/-! ## The question that is put to an engine -/

/-- Versions of any lengths are totally preordered: each one reaches itself, of two one reaches the
other, and what a version reaches is reached by all that reach it. Two of them reach each other
exactly if they differ in zeros at the end only, and one reaches another exactly if they never
differ or it has the larger component where they first do. An engine whose version is known answers
by this order whether it reaches a threshold. -/
theorem reaches_totalPreorder (u v w : List Nat) :
    reaches u u = true ∧
    (reaches u v = true ∨ reaches v u = true) ∧
    (reaches u v = true → reaches v w = true → reaches u w = true) ∧
    (reaches u v = true ∧ reaches v u = true ↔
      u.rdropWhile (· == 0) = v.rdropWhile (· == 0)) ∧
    (reaches u v = true ↔ (∀ i, u.getD i 0 = v.getD i 0) ∨
      ∃ n, (∀ i < n, u.getD i 0 = v.getD i 0) ∧ v.getD n 0 < u.getD n 0) ∧
    ∀ (e : Engine) (version : Version), e.version = some version → version.components = u →
      e.reaches v = .ok (reaches u v) := by
  have hself : reaches u u = true := (reaches_total u u).elim id id
  refine ⟨hself, reaches_total u v, reaches_trans, reaches_both_iff, reaches_iff, ?_⟩
  rintro e version hversion rfl
  rw [Engine.reaches, hversion]

/-- Postgres 11 reaches 11.0, which it equals but for a zero, and so it reaches 9.2 as 11.0 does. -/
theorem reaches_totalPreorder_trailingZero :
    reaches [11] [11, 0] = true ∧ reaches [11, 0] [9, 2] = true ∧ reaches [11] [9, 2] = true ∧
    [11].rdropWhile (· == 0) = [11, 0].rdropWhile (· == 0) ∧
    (⟨.postgres, some { components := [11] }, "UTC"⟩ : Engine).reaches [11, 0] = .ok true := by
  obtain ⟨-, -, htrans, hzeros, -, hengine⟩ := reaches_totalPreorder [11] [11, 0] [9, 2]
  have h₁ : reaches [11] [11, 0] = true := by decide
  have h₂ : reaches [11, 0] [9, 2] = true := by decide
  refine ⟨h₁, h₂, htrans h₁ h₂, hzeros.mp ⟨h₁, by decide⟩, ?_⟩
  rw [hengine _ { components := [11] } rfl rfl, h₁]

end MigrationSafety.Version
