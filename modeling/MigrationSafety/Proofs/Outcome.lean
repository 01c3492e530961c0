import Mathlib.Data.List.Forall2
import MigrationSafety.Trace

/-!
# Computations that may stop

What it takes for a computation made of others to have a result: each part has one, and the next
part starts from it.

* `bind_eq_ok`, `mapM_eq_ok`: one computation after another, and one for every item of a list;
* `bind_eq_error`, `mapM_eq_error`: where they stop;
* `Traced.outcome_bind_eq_ok`, `Traced.outcome_forEach_eq_ok`: the same of traced computations;
* `mapM_total`, `Traced.forEach_total`: where every part has a result, the whole has one.
-/

namespace MigrationSafety

variable {ε α β : Type}

theorem bind_eq_ok {x : Except ε α} {f : α → Except ε β} {b : β} :
    x >>= f = .ok b ↔ ∃ a, x = .ok a ∧ f a = .ok b := by
  cases x <;> simp [bind, Except.bind]

theorem bind_eq_error {x : Except ε α} {f : α → Except ε β} {e : ε} :
    x >>= f = .error e ↔ x = .error e ∨ ∃ a, x = .ok a ∧ f a = .error e := by
  cases x <;> simp [bind, Except.bind]

theorem mapError_eq_ok {ε' : Type} {x : Except ε α} {f : ε → ε'} {a : α} :
    x.mapError f = .ok a ↔ x = .ok a := by
  cases x <;> simp [Except.mapError]

theorem mapError_eq_error {ε' : Type} {x : Except ε α} {f : ε → ε'} {e : ε'} :
    x.mapError f = .error e ↔ ∃ e', x = .error e' ∧ f e' = e := by
  cases x <;> simp [Except.mapError]

theorem mapM_eq_ok {f : α → Except ε β} {as : List α} {bs : List β} :
    as.mapM f = .ok bs ↔ List.Forall₂ (fun a b => f a = .ok b) as bs := by
  induction as generalizing bs with
  | nil =>
    rw [List.mapM_nil, List.forall₂_nil_left_iff]
    exact ⟨fun h => (Except.ok.inj h).symm, fun h => h ▸ rfl⟩
  | cons a as ih =>
    rw [List.mapM_cons, List.forall₂_cons_left_iff]
    simp only [bind_eq_ok, ih]
    constructor
    · rintro ⟨b, hb, bs', hbs, h⟩
      exact ⟨b, bs', hb, hbs, (Except.ok.inj h).symm⟩
    · rintro ⟨b, bs', hb, hbs, rfl⟩
      exact ⟨b, hb, bs', hbs, rfl⟩

/-- A computation for every item stops at the first item for which it does. -/
theorem mapM_eq_error {f : α → Except ε β} {as : List α} {e : ε} :
    as.mapM f = .error e ↔ ∃ before a after, as = before ++ a :: after ∧
      (∀ b ∈ before, ∃ c, f b = .ok c) ∧ f a = .error e := by
  induction as with
  | nil =>
    rw [List.mapM_nil]
    constructor
    · intro h
      cases h
    · rintro ⟨before, a, after, hsplit, -⟩
      cases before <;> cases hsplit
  | cons a as ih =>
    rw [List.mapM_cons, bind_eq_error]
    constructor
    · rintro (ha | ⟨b, hb, hrest⟩)
      · exact ⟨[], a, as, rfl, nofun, ha⟩
      · rcases bind_eq_error.mp hrest with hrest | ⟨bs, -, hbs⟩
        · obtain ⟨before, a', after, rfl, hbefore, ha'⟩ := ih.mp hrest
          exact ⟨a :: before, a', after, rfl, List.forall_mem_cons.mpr ⟨⟨b, hb⟩, hbefore⟩, ha'⟩
        · cases hbs
    · rintro ⟨before, a', after, hsplit, hbefore, ha'⟩
      cases before with
      | nil =>
        cases hsplit
        exact .inl ha'
      | cons b before =>
        cases hsplit
        obtain ⟨⟨c, hc⟩, hbefore⟩ := List.forall_mem_cons.mp hbefore
        exact .inr ⟨c, hc, bind_eq_error.mpr (.inl (ih.mpr ⟨before, a', after, rfl, hbefore, ha'⟩))⟩

theorem mapM_total {f : α → Except ε β} {as : List α} (h : ∀ a ∈ as, ∃ b, f a = .ok b) :
    ∃ bs, as.mapM f = .ok bs := by
  induction as with
  | nil => exact ⟨[], rfl⟩
  | cons a as ih =>
    obtain ⟨b, hb⟩ := h a List.mem_cons_self
    obtain ⟨bs, hbs⟩ := ih fun a ha => h a (List.mem_cons_of_mem _ ha)
    exact ⟨b :: bs, mapM_eq_ok.mpr (.cons hb (mapM_eq_ok.mp hbs))⟩

/-! ## Lists related item by item -/

theorem getElem?_of_forall₂ {R : α → β → Prop} {as : List α} {bs : List β}
    (h : List.Forall₂ R as bs) {i : Nat} {a : α} (ha : as[i]? = some a) :
    ∃ b, bs[i]? = some b ∧ R a b := by
  induction h generalizing i with
  | nil => simp at ha
  | @cons a' b' as bs hab _ ih =>
    cases i with
    | zero =>
      rw [List.getElem?_cons_zero, Option.some.injEq] at ha
      exact ⟨b', List.getElem?_cons_zero, ha ▸ hab⟩
    | succ i =>
      rw [List.getElem?_cons_succ] at ha ⊢
      exact ih ha

theorem exists_of_forall₂ {R : α → β → Prop} {as : List α} {bs : List β}
    (h : List.Forall₂ R as bs) {b : β} (hb : b ∈ bs) : ∃ a ∈ as, R a b := by
  induction h with
  | nil => cases hb
  | @cons a b' as bs hab _ ih =>
    rcases List.mem_cons.mp hb with rfl | hb
    · exact ⟨a, List.mem_cons_self, hab⟩
    · obtain ⟨a', ha', hab'⟩ := ih hb
      exact ⟨a', List.mem_cons_of_mem _ ha', hab'⟩

/-- What is read off related items alike is read off the lists alike. -/
theorem map_eq_of_forall₂ {γ : Type} {R : α → β → Prop} {f : α → γ} {g : β → γ} {as : List α}
    {bs : List β} (h : List.Forall₂ R as bs) (hfg : ∀ a b, R a b → f a = g b) :
    as.map f = bs.map g := by
  induction h with
  | nil => rfl
  | cons hab _ ih => rw [List.map_cons, List.map_cons, ih, hfg _ _ hab]

theorem countP_of_forall₂ {R : α → β → Prop} {q : α → Bool} {r : β → Bool} {as : List α}
    {bs : List β} (h : List.Forall₂ R as bs) (hqr : ∀ a b, R a b → q a = r b) :
    bs.countP r = as.countP q := by
  induction h with
  | nil => rfl
  | cons hab _ ih => rw [List.countP_cons, List.countP_cons, ih, hqr _ _ hab]

theorem forall₂_zip {α' β' : Type} {R : α → β → Prop} {S : α' → β' → Prop} {as : List α}
    {bs : List β} {as' : List α'} {bs' : List β'} (h : List.Forall₂ R as bs)
    (h' : List.Forall₂ S as' bs') :
    List.Forall₂ (fun x y => R x.1 y.1 ∧ S x.2 y.2) (as.zip as') (bs.zip bs') := by
  induction h generalizing as' bs' with
  | nil => exact .nil
  | cons hab _ ih =>
    cases h' with
    | nil => exact .nil
    | cons hab' hrest' => exact .cons ⟨hab, hab'⟩ (ih hrest')

/-- What is related to a list in two parts comes in two parts. -/
theorem forall₂_append_left {R : α → β → Prop} {as as' : List α} {cs : List β}
    (h : List.Forall₂ R (as ++ as') cs) :
    ∃ bs bs', List.Forall₂ R as bs ∧ List.Forall₂ R as' bs' ∧ bs ++ bs' = cs := by
  induction as generalizing cs with
  | nil => exact ⟨[], cs, .nil, h, rfl⟩
  | cons a as ih =>
    obtain ⟨c, cs, hac, hrest, rfl⟩ := List.forall₂_cons_left_iff.mp h
    obtain ⟨bs, bs', hbs, hbs', rfl⟩ := ih hrest
    exact ⟨c :: bs, bs', .cons hac hbs, hbs', rfl⟩

/-- What is related to lists put behind each other comes in as many parts. -/
theorem forall₂_flatMap_left {γ : Type} {R : β → γ → Prop} {f : α → List β} {as : List α}
    {cs : List γ} : List.Forall₂ R (as.flatMap f) cs ↔
      ∃ parts, List.Forall₂ (fun a part => List.Forall₂ R (f a) part) as parts ∧
        parts.flatten = cs := by
  induction as generalizing cs with
  | nil =>
    simp only [List.flatMap_nil, List.forall₂_nil_left_iff, exists_eq_left, List.flatten_nil]
    exact eq_comm
  | cons a as ih =>
    rw [List.flatMap_cons]
    constructor
    · intro h
      obtain ⟨part, rest, hpart, hrest, rfl⟩ := forall₂_append_left h
      obtain ⟨parts, hparts, rfl⟩ := ih.mp hrest
      exact ⟨part :: parts, .cons hpart hparts, rfl⟩
    · rintro ⟨_, h, rfl⟩
      obtain ⟨part, parts, hpart, hparts, rfl⟩ := List.forall₂_cons_left_iff.mp h
      exact List.rel_append hpart (ih.mpr ⟨parts, hparts, rfl⟩)

namespace Traced

@[simp] theorem outcome_liftM (o : Outcome α) : (liftM o : Traced α).outcome = o := rfl

theorem outcome_bind_eq_ok {x : Traced α} {f : α → Traced β} {b : β} :
    (x >>= f).outcome = .ok b ↔ ∃ a, x.outcome = .ok a ∧ (f a).outcome = .ok b := by
  rw [outcome_bind]
  exact bind_eq_ok

theorem outcome_forEach_eq_ok {f : α → Traced β} {as : List α} {bs : List β} :
    (forEach f as).outcome = .ok bs ↔
      List.Forall₂ (fun a b => (f a).outcome = .ok b) as bs := by
  induction as generalizing bs with
  | nil =>
    rw [List.forall₂_nil_left_iff]
    exact ⟨fun h => (Except.ok.inj h).symm, fun h => h ▸ rfl⟩
  | cons a as ih =>
    rw [forEach, List.forall₂_cons_left_iff]
    simp only [outcome_bind_eq_ok, ih]
    constructor
    · rintro ⟨b, hb, bs', hbs, h⟩
      exact ⟨b, bs', hb, hbs, (Except.ok.inj h).symm⟩
    · rintro ⟨b, bs', hb, hbs, rfl⟩
      exact ⟨b, hb, bs', hbs, rfl⟩

theorem forEach_map {γ : Type} (f : β → Traced γ) (g : α → β) (as : List α) :
    forEach f (as.map g) = forEach (fun a => f (g a)) as := by
  induction as with
  | nil => rfl
  | cons a as ih => rw [List.map_cons, forEach, forEach, ih]

/-- A computation for the items of a list in two parts. -/
theorem outcome_forEach_append {f : α → Traced β} {as as' : List α} {cs : List β}
    (h : (forEach f (as ++ as')).outcome = .ok cs) :
    ∃ bs bs', (forEach f as).outcome = .ok bs ∧ (forEach f as').outcome = .ok bs' ∧
      bs ++ bs' = cs := by
  obtain ⟨bs, bs', hbs, hbs', hcs⟩ := forall₂_append_left (outcome_forEach_eq_ok.mp h)
  exact ⟨bs, bs', outcome_forEach_eq_ok.mpr hbs, outcome_forEach_eq_ok.mpr hbs', hcs⟩

theorem forEach_total {f : α → Traced β} {as : List α} (h : ∀ a ∈ as, ∃ b, (f a).outcome = .ok b) :
    ∃ bs, (forEach f as).outcome = .ok bs := by
  induction as with
  | nil => exact ⟨[], rfl⟩
  | cons a as ih =>
    obtain ⟨b, hb⟩ := h a List.mem_cons_self
    obtain ⟨bs, hbs⟩ := ih fun a ha => h a (List.mem_cons_of_mem _ ha)
    exact ⟨b :: bs, outcome_forEach_eq_ok.mpr (.cons hb (outcome_forEach_eq_ok.mp hbs))⟩

end Traced

end MigrationSafety
