import MigrationSafety.Proofs.Outcome

/-!
# Two computations that end alike

One computation is run in two settings. It ends alike in both if either run has a result and the
two results stand in a relation, or both runs stop with the same failure. Computations made of parts
that end alike end alike, so a relation between two runs is proved part by part.

* `Alike`: the lifting of a relation between results to computations;
* `Alike.bind`, `Alike.bind_same`: one computation after another;
* `Alike.forEach`: one computation for every item of a list.
-/

namespace MigrationSafety

variable {α β γ δ : Type}

/-- Two computations end alike: with related results, or with the same failure. -/
inductive Alike (R : α → β → Prop) : Outcome α → Outcome β → Prop
  | ok {a : α} {b : β} : R a b → Alike R (.ok a) (.ok b)
  | error (failure : Failure) : Alike R (.error failure) (.error failure)

namespace Alike

variable {R : α → β → Prop} {S : γ → δ → Prop}

/-- A computation ends like itself. -/
theorem refl {R : α → α → Prop} (x : Outcome α) (h : ∀ a, x = .ok a → R a a) : Alike R x x := by
  cases x with
  | error failure => exact .error failure
  | ok a => exact .ok (h a rfl)

theorem mono {R' : α → β → Prop} {x : Outcome α} {y : Outcome β} (h : Alike R x y)
    (hR : ∀ a b, R a b → R' a b) : Alike R' x y := by
  cases h with
  | ok hab => exact .ok (hR _ _ hab)
  | error failure => exact .error failure

theorem symm {x : Outcome α} {y : Outcome β} (h : Alike R x y) : Alike (fun b a => R a b) y x := by
  cases h with
  | ok hab => exact .ok hab
  | error failure => exact .error failure

/-- Two computations end alike if both end like a third one. -/
theorem trans {x : Outcome α} {y : Outcome β} {z : Outcome γ} {T : β → γ → Prop} {U : α → γ → Prop}
    (hxy : Alike R x y) (hyz : Alike T y z) (h : ∀ a b c, R a b → T b c → U a c) :
    Alike U x z := by
  cases hxy with
  | ok hab =>
    cases hyz with
    | ok hbc => exact .ok (h _ _ _ hab hbc)
  | error failure =>
    cases hyz
    exact .error failure

/-- Where one of two computations that end alike has a result, so has the other. -/
theorem exists_right {x : Outcome α} {y : Outcome β} (h : Alike R x y) {a : α} (hx : x = .ok a) :
    ∃ b, y = .ok b ∧ R a b := by
  cases h with
  | ok hab =>
    cases hx
    exact ⟨_, rfl, hab⟩
  | error => cases hx

/-- Steps that end alike after steps that end alike. -/
theorem bind {x : Outcome α} {y : Outcome β} {f : α → Outcome γ} {g : β → Outcome δ}
    (h : Alike R x y) (hfg : ∀ a b, x = .ok a → y = .ok b → R a b → Alike S (f a) (g b)) :
    Alike S (x.bind f) (y.bind g) := by
  cases h with
  | ok hab => exact hfg _ _ rfl rfl hab
  | error failure => exact .error failure

/-- Steps that end alike after the same step. -/
theorem bind_same {x : Outcome α} {f : α → Outcome γ} {g : α → Outcome δ}
    (hfg : ∀ a, x = .ok a → Alike S (f a) (g a)) : Alike S (x.bind f) (x.bind g) := by
  cases x with
  | error failure => exact .error failure
  | ok a => exact hfg a rfl

/-- Two computations for the items of a list that end alike for each of them. -/
theorem forEach {f : α → Traced γ} {g : α → Traced δ} {as : List α}
    (h : ∀ a ∈ as, Alike S (f a).outcome (g a).outcome) :
    Alike (List.Forall₂ S) (Traced.forEach f as).outcome (Traced.forEach g as).outcome := by
  induction as with
  | nil => exact .ok .nil
  | cons a as ih =>
    obtain ⟨ha, has⟩ := List.forall_mem_cons.mp h
    simp only [Traced.forEach, Traced.outcome_bind]
    refine ha.bind fun b c _ _ hbc => ?_
    exact (ih has).bind fun bs cs _ _ hbcs => .ok (.cons hbc hbcs)

end Alike

end MigrationSafety
