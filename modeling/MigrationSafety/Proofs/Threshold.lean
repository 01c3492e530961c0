import Mathlib.Data.List.Nodup
import MigrationSafety.Threshold

/-!
# Overriding thresholds

A table of thresholds is overridden feature by feature, and each feature kind by kind, with the rows
of the old table copied and updated. Nothing of this order is left in the result: for a feature and
a kind of engine it holds the version that the overrides give, and without one what it held before.

* `lookup_assign`, `lookup_foldl_assign`: what a list holds after one assignment, and after several;
* `Thresholds.entries`, `Thresholds.given?`: overrides as one list of entries, and what they give;
* `Thresholds.find?_override`: a table that is overridden, entry by entry;
* `Thresholds.given?_eq_find?`: what a table gives is what it holds.
-/

namespace MigrationSafety

section
variable {α β : Type} [BEq α]

theorem lookupLast?_append (key : α) (l l' : List (α × β)) :
    lookupLast? key (l ++ l') = (lookupLast? key l').or (lookupLast? key l) := by
  induction l with
  | nil => simp [lookupLast?]
  | cons entry rest ih => rw [List.cons_append, lookupLast?, lookupLast?, ih, Option.or_assoc]

variable [LawfulBEq α]

/-- A key that is given a value has it, and every other key keeps its own. -/
theorem lookup_assign (key key' : α) (value : β) (l : List (α × β)) :
    (assign key value l).lookup key' = if key' == key then some value else l.lookup key' := by
  induction l with
  | nil =>
    simp only [assign, List.lookup_cons, List.lookup_nil]
    cases key' == key <;> rfl
  | cons entry rest ih =>
    obtain ⟨k, v⟩ := entry
    simp only [assign]
    split
    · rename_i hk
      obtain rfl : k = key := beq_iff_eq.mp hk
      simp only [List.lookup_cons]
      cases key' == k <;> rfl
    · rename_i hk
      simp only [List.lookup_cons, ih]
      by_cases hkey : key' == k
      · have hne : (key' == key) = false := by
          rw [beq_iff_eq.mp hkey]
          simpa using hk
        simp only [hkey, hne, if_false, Bool.false_eq_true]
      · simp only [Bool.not_eq_true] at hkey
        simp only [hkey]

/-- After several assignments a key has the value that it was given last, if it was given one. -/
theorem lookup_foldl_assign (key : α) (entries l : List (α × β)) :
    (entries.foldl (fun l (k, v) => assign k v l) l).lookup key =
      (lookupLast? key entries).or (l.lookup key) := by
  induction entries generalizing l with
  | nil => rfl
  | cons entry rest ih =>
    obtain ⟨k, v⟩ := entry
    rw [List.foldl_cons, ih, lookup_assign, lookupLast?, Option.or_assoc]
    congr 1
    by_cases h : key = k
    · subst h
      simp
    · simp [h, Ne.symm h]

theorem lookup_eq_none_of_not_mem {key : α} {l : List (α × β)} (h : key ∉ l.map Prod.fst) :
    l.lookup key = none := by
  rw [List.lookup_eq_none_iff]
  intro entry hentry
  have hne : key ≠ entry.1 := fun heq => h (heq ▸ List.mem_map_of_mem hentry)
  exact bne_iff_ne.mpr hne

/-- Where the keys of a list differ, the first entry with a key is also the last one. -/
theorem lookupLast?_eq_lookup (key : α) {l : List (α × β)} (h : (l.map Prod.fst).Nodup) :
    lookupLast? key l = l.lookup key := by
  induction l with
  | nil => rfl
  | cons entry rest ih =>
    obtain ⟨k, v⟩ := entry
    obtain ⟨hfresh, hrest⟩ := List.nodup_cons.mp h
    rw [lookupLast?, ih hrest, List.lookup_cons]
    by_cases hkey : key = k
    · subst hkey
      simp [lookup_eq_none_of_not_mem hfresh]
    · simp [Ne.symm hkey, beq_false_of_ne hkey]

end

namespace Thresholds

/-- The entries of a table, each under its feature and its kind of engine. -/
def entries (t : Thresholds) : List ((String × EngineKind) × Version) :=
  t.flatMap fun (feature, row) => row.map fun (kind, version) => ((feature, kind), version)

/-- The version that overrides give for a feature and a kind of engine. Where they give more than
one, the last one counts. -/
def given? (t : Thresholds) (feature : String) (kind : EngineKind) : Option Version :=
  lookupLast? (feature, kind) t.entries

/-- Whether no feature has two rows, and no row two entries for one kind of engine. -/
structure IsTable (t : Thresholds) : Prop where
  features : (t.map Prod.fst).Nodup
  kinds : ∀ row ∈ t, (row.2.map Prod.fst).Nodup

variable (feature : String) (kind : EngineKind)

/-- What the entries of one feature give. -/
theorem lookupLast?_map_row (f : String) (row : List (EngineKind × Version)) :
    lookupLast? (feature, kind) (row.map fun (k, v) => ((f, k), v)) =
      if f = feature then lookupLast? kind row else none := by
  induction row with
  | nil => simp [lookupLast?]
  | cons entry rest ih =>
    rw [List.map_cons, lookupLast?, ih, lookupLast?]
    by_cases hf : f = feature
    · simp [hf]
    · simp [hf]

theorem given?_cons (f : String) (row : List (EngineKind × Version)) (t : Thresholds) :
    given? ((f, row) :: t) feature kind =
      (given? t feature kind).or (if f = feature then lookupLast? kind row else none) := by
  rw [given?, entries, List.flatMap_cons, lookupLast?_append, lookupLast?_map_row]
  rfl

theorem find?_cons (f : String) (row : List (EngineKind × Version)) (t : Thresholds) :
    find? ((f, row) :: t) feature kind =
      if f = feature then row.lookup kind else find? t feature kind := by
  rw [find?, List.lookup_cons]
  by_cases hf : feature = f
  · simp [hf]
  · simp [find?, Ne.symm hf, beq_false_of_ne hf]

/-- The entries of one feature are overridden, and those of other features are kept. -/
theorem find?_overrideFeature (t : Thresholds) (f : String) (row : List (EngineKind × Version)) :
    (t.overrideFeature f row).find? feature kind =
      (if f = feature then lookupLast? kind row else none).or (t.find? feature kind) := by
  rw [overrideFeature, find?, lookup_assign]
  by_cases hf : f = feature
  · subst hf
    simp only [beq_self_eq_true, if_true, Option.bind_some, lookup_foldl_assign, find?]
    cases t.lookup f <;> rfl
  · simp [hf, Ne.symm hf, find?]

/-- A table that is overridden holds what the overrides give, and else what it held before. -/
theorem find?_override (t overrides : Thresholds) :
    (t.override overrides).find? feature kind =
      (overrides.given? feature kind).or (t.find? feature kind) := by
  induction overrides generalizing t with
  | nil => rfl
  | cons entry rest ih =>
    obtain ⟨f, row⟩ := entry
    show ((t.overrideFeature f row).override rest).find? feature kind = _
    rw [ih, find?_overrideFeature, given?_cons, Option.or_assoc]

/-- What a table gives is what it holds. -/
theorem given?_eq_find? {t : Thresholds} (h : t.IsTable) :
    t.given? feature kind = t.find? feature kind := by
  induction t with
  | nil => rfl
  | cons entry rest ih =>
    obtain ⟨f, row⟩ := entry
    obtain ⟨hfresh, hfeatures⟩ := List.nodup_cons.mp h.features
    have hrest : IsTable rest :=
      ⟨hfeatures, fun row hrow => h.kinds row (List.mem_cons_of_mem _ hrow)⟩
    rw [given?_cons, find?_cons, ih hrest]
    by_cases hf : f = feature
    · subst hf
      have hnone : find? rest f kind = none := by
        rw [find?, lookup_eq_none_of_not_mem hfresh]
        rfl
      rw [hnone, if_pos rfl, if_pos rfl, Option.none_or,
        lookupLast?_eq_lookup kind (h.kinds (f, row) List.mem_cons_self)]
    · rw [if_neg hf, if_neg hf, Option.or_none]

end Thresholds

end MigrationSafety
