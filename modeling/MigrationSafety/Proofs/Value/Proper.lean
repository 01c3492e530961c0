import Mathlib.Data.List.Nodup
import MigrationSafety.Value.Basic

/-!
# Equality of JSON values

Equality of values compares numbers by what they mean and records by their keys. A value that is
written in JSON holds numbers only, and no record with a key twice; such a value is equal to
itself.

* `Value.isProper`: such values;
* `lookup_of_nodup`: where keys differ, each field is found by its key;
* `Value.equal_self`: they are equal to themselves.
-/

namespace MigrationSafety

/-- Where keys differ, each field is found by its key. -/
theorem lookup_of_nodup {α : Type} {fields : List (String × α)}
    (hnodup : (fields.map Prod.fst).Nodup) {field : String × α} (hfield : field ∈ fields) :
    fields.lookup field.1 = some field.2 := by
  obtain ⟨before, after, rfl⟩ := List.append_of_mem hfield
  refine List.lookup_eq_some_iff.mpr ⟨before, after, rfl, fun other hother => ?_⟩
  rw [List.map_append, List.map_cons, List.nodup_append'] at hnodup
  have hkey : field.1 ≠ other.1 := by
    intro heq
    apply hnodup.2.2 (List.mem_map_of_mem hother)
    rw [← heq]
    exact List.mem_cons_self
  exact bne_iff_ne.mpr hkey

theorem Binary64.equal_self {x : Binary64} (h : x ≠ .notANumber) : x.equal x = true := by
  cases x with
  | finite negative significand exponent => simp [Binary64.equal]
  | infinite negative => simp [Binary64.equal]
  | notANumber => exact absurd rfl h

namespace Value

mutual

/-- Whether every number in a value is one, and no record in it has a key twice. -/
def isProper : Value → Bool
  | .float x => x != .notANumber
  | .list items => areProper items
  | .record fields => decide (fields.map Prod.fst).Nodup && fieldsAreProper fields
  | _ => true

/-- Whether every item of a list is proper. -/
def areProper : List Value → Bool
  | [] => true
  | v :: vs => isProper v && areProper vs

/-- Whether the value of every field is proper. -/
def fieldsAreProper : List (String × Value) → Bool
  | [] => true
  | (_, v) :: fs => isProper v && fieldsAreProper fs

end

mutual

/-- A value whose numbers are numbers and whose keys differ is equal to itself. -/
theorem equal_self : ∀ {v : Value}, v.isProper = true → v.equal v = true
  | .null, _ => equal_null
  | .flag b, _ => by simp [equal, sameNumber, number?]
  | .int n, _ => by simp [equal, sameNumber, number?]
  | .float x, h => by
    have hx : x ≠ .notANumber := by simpa [isProper] using h
    cases hwhole : x.toInt? <;> simp [equal, sameNumber, number?, hwhole, Binary64.equal_self hx]
  | .text s, _ => by rw [equal_text, beq_self_eq_true]
  | .list items, h => by
    rw [isProper] at h
    rw [equal]
    exact equalItems_self h
  | .record fields, h => by
    rw [isProper, Bool.and_eq_true, decide_eq_true_eq] at h
    rw [equal, beq_self_eq_true, Bool.true_and]
    exact equalFields_self h.2 fun field hfield => lookup_of_nodup h.1 hfield

theorem equalItems_self : ∀ {vs : List Value}, areProper vs = true → equalItems vs vs = true
  | [], _ => rfl
  | v :: vs, h => by
    rw [areProper, Bool.and_eq_true] at h
    rw [equalItems, equal_self h.1, equalItems_self h.2, Bool.and_self]

/-- Fields are found, with their values, among fields that hold them under their keys. -/
theorem equalFields_self : ∀ {fs gs : List (String × Value)}, fieldsAreProper fs = true →
    (∀ field ∈ fs, gs.lookup field.1 = some field.2) → equalFields fs gs = true
  | [], _, _, _ => rfl
  | (k, v) :: fs, gs, h, hfound => by
    rw [fieldsAreProper, Bool.and_eq_true] at h
    have hv : gs.lookup k = some v := hfound (k, v) List.mem_cons_self
    have hrest := equalFields_self h.2 fun field hfield =>
      hfound field (List.mem_cons_of_mem _ hfield)
    simp only [equalFields, hv, equal_self h.1, hrest, Bool.and_self]

end

end Value

end MigrationSafety
