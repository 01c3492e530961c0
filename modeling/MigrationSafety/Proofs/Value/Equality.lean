import MigrationSafety.Sequencing.NewTable

/-!
# Equality of keys

Tables, columns and constraints are found by values that serve as keys. On those, equality of
values is symmetric and transitive, so that what is equal to one name of a table is equal to every
other name of it. It is reflexive on texts, but not on what is not a number.

* `Value.equal_symm`, `Value.equal_trans`: equality of keys;
* `Value.equal_text_left`, `Value.equal_text_right`: what is equal to a text;
* `Value.asKey_eq_ok`: what can serve as a key.
-/

namespace MigrationSafety

theorem Binary64.equal_symm {x y : Binary64} (h : x.equal y = true) : y.equal x = true := by
  cases x <;> cases y <;> simp_all [Binary64.equal]
  grind

theorem Binary64.equal_trans {x y z : Binary64} (hxy : x.equal y = true)
    (hyz : y.equal z = true) : x.equal z = true := by
  cases x <;> cases y <;> cases z <;> simp_all [Binary64.equal]
  grind

namespace Value

theorem sameNumber_symm {v w : Value} (h : v.sameNumber w = true) : w.sameNumber v = true := by
  unfold sameNumber at h ⊢
  cases hv : v.number? <;> cases hw : w.number? <;> simp only [hv, hw] at h ⊢ <;> try cases h
  rename_i m n
  cases m <;> cases n <;> simp_all [Binary64.equal_symm]

theorem sameNumber_trans {v w x : Value} (hvw : v.sameNumber w = true)
    (hwx : w.sameNumber x = true) : v.sameNumber x = true := by
  unfold sameNumber at hvw hwx ⊢
  cases hv : v.number? <;> cases hw : w.number? <;> cases hx : x.number? <;>
    simp only [hv, hw, hx] at hvw hwx ⊢ <;> try first | cases hvw | cases hwx
  rename_i l m n
  cases l <;> cases m <;> cases n <;> simp_all
  exact Binary64.equal_trans hvw hwx

/-- Equality of keys: null is equal to null, a text to the same text, and a number or flag to what
means the same. -/
theorem equal_eq_true_iff {v w : Value} (hv : v.isScalar = true) (hw : w.isScalar = true) :
    v.equal w = true ↔
      (v = .null ∧ w = .null) ∨ (∃ s, v = .text s ∧ w = .text s) ∨ v.sameNumber w = true := by
  cases v <;> cases w <;> simp_all [isScalar, equal, sameNumber, number?]
  exact eq_comm

theorem equal_symm {v w : Value} (hv : v.isScalar = true) (hw : w.isScalar = true)
    (h : v.equal w = true) : w.equal v = true := by
  rw [equal_eq_true_iff hv hw] at h
  rw [equal_eq_true_iff hw hv]
  rcases h with ⟨rfl, rfl⟩ | ⟨s, rfl, rfl⟩ | h
  · exact .inl ⟨rfl, rfl⟩
  · exact .inr (.inl ⟨s, rfl, rfl⟩)
  · exact .inr (.inr (sameNumber_symm h))

theorem equal_trans {v w x : Value} (hv : v.isScalar = true) (hw : w.isScalar = true)
    (hx : x.isScalar = true) (hvw : v.equal w = true) (hwx : w.equal x = true) :
    v.equal x = true := by
  rw [equal_eq_true_iff hv hw] at hvw
  rw [equal_eq_true_iff hw hx] at hwx
  rw [equal_eq_true_iff hv hx]
  rcases hvw with ⟨rfl, rfl⟩ | ⟨s, rfl, rfl⟩ | hvw
  · exact hwx
  · exact hwx
  · rcases hwx with ⟨rfl, rfl⟩ | ⟨s, rfl, rfl⟩ | hwx
    · exact .inr (.inr hvw)
    · exact .inr (.inr hvw)
    · exact .inr (.inr (sameNumber_trans hvw hwx))

theorem equal_text_left {s : String} {v : Value} :
    (Value.text s).equal v = true ↔ v = .text s := by
  cases v <;> simp [equal, sameNumber, number?]
  exact eq_comm

theorem equal_text_right {s : String} {v : Value} : v.equal (.text s) = true ↔ v = .text s := by
  cases v <;> simp [equal, sameNumber, number?]

theorem asKey_eq_ok {v w : Value} : v.asKey = .ok w ↔ v.isScalar = true ∧ v = w := by
  unfold asKey
  split <;> simp_all

theorem asKey_of_isScalar {v : Value} (h : v.isScalar = true) : v.asKey = .ok v :=
  asKey_eq_ok.mpr ⟨h, rfl⟩

end Value

end MigrationSafety
