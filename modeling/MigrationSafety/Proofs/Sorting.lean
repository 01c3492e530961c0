import Mathlib.Data.List.Nodup
import Mathlib.Order.Lattice

/-!
# Sorting by a key

Reports and directories are put in order by a stable sort that compares a key of each element. It
leaves elements with the same key where they are; where no two have the same one, the order in which
they come does not matter.

* `filter_mergeSort`: taking out and putting in order can be exchanged;
* `mergeSort_lt_of_key`: elements are in strict order if their keys differ;
* `mergeSort_eq_of_perm`: and then they are in the same order, however they come;
* `key_lt_iff_of_pairwise`: what strict order says of two places.
-/

namespace MigrationSafety

/-! ## Taking out elements -/

/-- A list is cut in one way only into elements without a property and elements with it. -/
theorem append_cut_unique {α : Type} {q : α → Bool} {xs xs' ys ys' : List α}
    (h : xs ++ ys = xs' ++ ys') (hxs : ∀ x ∈ xs, q x = false) (hxs' : ∀ x ∈ xs', q x = false)
    (hys : ∀ y ∈ ys, q y = true) (hys' : ∀ y ∈ ys', q y = true) : xs = xs' ∧ ys = ys' := by
  have hcut {us vs : List α} (hus : ∀ u ∈ us, q u = false) (hvs : ∀ v ∈ vs, q v = true) :
      (us ++ vs).filter (!q ·) = us ∧ (us ++ vs).filter q = vs := by
    rw [List.filter_append, List.filter_append, List.filter_eq_self.mpr (by simpa using hus),
      List.filter_eq_nil_iff.mpr (by simpa using hvs), List.filter_eq_self.mpr hvs,
      List.filter_eq_nil_iff.mpr (by simpa using hus)]
    exact ⟨List.append_nil us, List.nil_append vs⟩
  obtain ⟨hx, hy⟩ := hcut hxs hys
  obtain ⟨hx', hy'⟩ := hcut hxs' hys'
  rw [h] at hx hy
  exact ⟨hx.symm.trans hx', hy.symm.trans hy'⟩

/-- Where a stable sort puts a new element: before those that it may stand before, and behind the
others. -/
theorem mergeSort_cons_cut {α : Type} {le : α → α → Bool}
    (trans : ∀ a b c, le a b = true → le b c = true → le a c = true)
    (total : ∀ a b, (le a b || le b a) = true) (a : α) (l : List α) :
    ∃ xs ys, (a :: l).mergeSort le = xs ++ a :: ys ∧ l.mergeSort le = xs ++ ys ∧
      (∀ x ∈ xs, le a x = false) ∧ ∀ y ∈ ys, le a y = true := by
  obtain ⟨xs, ys, hcons, hl, hxs⟩ := List.mergeSort_cons trans total a l
  have hsorted := List.pairwise_mergeSort trans total (a :: l)
  rw [hcons] at hsorted
  have htail := (List.pairwise_append.mp hsorted).2.1
  exact ⟨xs, ys, hcons, hl, fun x hx => (Bool.not_eq_true' _).mp (hxs x hx),
    (List.pairwise_cons.mp htail).1⟩

/-- A stable sort leaves the elements of a sublist in the order in which it sorts them alone. -/
theorem filter_mergeSort {α : Type} {le : α → α → Bool}
    (trans : ∀ a b c, le a b = true → le b c = true → le a c = true)
    (total : ∀ a b, (le a b || le b a) = true) (q : α → Bool) (l : List α) :
    (l.mergeSort le).filter q = (l.filter q).mergeSort le := by
  induction l with
  | nil => rw [List.mergeSort_nil, List.filter_nil, List.mergeSort_nil]
  | cons a l ih =>
    obtain ⟨xs, ys, hcons, hl, hxs, hys⟩ := mergeSort_cons_cut trans total a l
    rw [hl, List.filter_append] at ih
    rw [hcons, List.filter_append]
    cases ha : q a with
    | false =>
      rw [List.filter_cons_of_neg (by simp [ha]), List.filter_cons_of_neg (by simp [ha]), ih]
    | true =>
      obtain ⟨us, vs, hcons', hl', hus, hvs⟩ := mergeSort_cons_cut trans total a (l.filter q)
      -- Both sorted lists are cut where the elements start that `a` may stand before.
      obtain ⟨hbefore, hafter⟩ : xs.filter q = us ∧ ys.filter q = vs :=
        append_cut_unique (ih.trans hl') (fun x hx => hxs x (List.mem_filter.mp hx).1) hus
          (fun y hy => hys y (List.mem_filter.mp hy).1) hvs
      rw [List.filter_cons_of_pos ha, List.filter_cons_of_pos ha, hcons', hbefore, hafter]

/-! ## Keys -/

section
variable {α κ : Type} [LinearOrder κ] {key : α → κ} {le : α → α → Bool}

theorem trans_of_key (hle : ∀ a b, le a b = true ↔ key a ≤ key b) (a b c : α)
    (hab : le a b = true) (hbc : le b c = true) : le a c = true :=
  (hle a c).mpr (le_trans ((hle a b).mp hab) ((hle b c).mp hbc))

theorem total_of_key (hle : ∀ a b, le a b = true ↔ key a ≤ key b) (a b : α) :
    (le a b || le b a) = true := by
  rw [Bool.or_eq_true, hle, hle]
  exact le_total (key a) (key b)

/-- A sort puts elements in the order of their keys. -/
theorem mergeSort_le_of_key (hle : ∀ a b, le a b = true ↔ key a ≤ key b) (l : List α) :
    (l.mergeSort le).Pairwise fun a b => key a ≤ key b :=
  (List.pairwise_mergeSort (trans_of_key hle) (total_of_key hle) l).imp fun h => (hle _ _).mp h

/-- The order is strict if no two elements have the same key. -/
theorem mergeSort_lt_of_key (hle : ∀ a b, le a b = true ↔ key a ≤ key b) {l : List α}
    (hnodup : (l.map key).Nodup) : (l.mergeSort le).Pairwise fun a b => key a < key b := by
  have hdistinct : (l.mergeSort le).Pairwise fun a b => key a ≠ key b :=
    List.pairwise_map.mp (((List.mergeSort_perm l le).map key).nodup_iff.mpr hnodup)
  exact ((mergeSort_le_of_key hle l).and hdistinct).imp fun ⟨h, hne⟩ => lt_of_le_of_ne h hne

/-- Elements without a common key are put in the same order, however they come. -/
theorem mergeSort_eq_of_perm (hle : ∀ a b, le a b = true ↔ key a ≤ key b) {l l' : List α}
    (hperm : l.Perm l') (hnodup : (l.map key).Nodup) : l.mergeSort le = l'.mergeSort le := by
  have hnodup' : (l'.map key).Nodup := (hperm.map key).nodup_iff.mp hnodup
  have hsame : (l.mergeSort le).Perm (l'.mergeSort le) :=
    (List.mergeSort_perm l le).trans (hperm.trans (List.mergeSort_perm l' le).symm)
  refine hsame.eq_of_pairwise ?_ (mergeSort_lt_of_key hle hnodup) (mergeSort_lt_of_key hle hnodup')
  exact fun a b _ _ hab hba => absurd hba (lt_asymm hab)

/-- In strict order, keys compare as the places of the elements do. -/
theorem key_lt_iff_of_pairwise {l : List α} (h : l.Pairwise fun a b => key a < key b) {i j : Nat}
    {a b : α} (ha : l[i]? = some a) (hb : l[j]? = some b) : key a < key b ↔ i < j := by
  obtain ⟨hi, rfl⟩ := List.getElem?_eq_some_iff.mp ha
  obtain ⟨hj, rfl⟩ := List.getElem?_eq_some_iff.mp hb
  have hplace := List.pairwise_iff_getElem.mp h
  refine ⟨fun hlt => ?_, hplace i j hi hj⟩
  rcases Nat.lt_trichotomy i j with hij | rfl | hji
  · exact hij
  · exact absurd hlt (lt_irrefl _)
  · exact absurd hlt (lt_asymm (hplace j i hj hi hji))

end

end MigrationSafety
