import MigrationSafety.Proofs.ColumnType.Readable
import MigrationSafety.Text.Integer

/-!
# Whole numbers are read back

A natural number that is written with its decimal digits is read as the same number, unless it has
more digits than are read.

* `trimChars_of_solid`: nothing is trimmed where nothing is blank;
* `digitValue?_of_isDigit`, `digitsOf?_of_isDigit`: the values of decimal digits;
* `readInteger_toDigits`: a number is read from its digits;
* `length_toDigits_of_readInteger`: no number that is read has too many digits.
-/

namespace MigrationSafety.Text

/-! ## What is stripped -/

theorem strip_of_solid {p : Char → Bool} {cs : List Char} (h : ∀ c ∈ cs, p c = false) :
    ((cs.dropWhile p).reverse.dropWhile p).reverse = cs := by
  have hkept {l : List Char} (hl : ∀ c ∈ l, p c = false) : l.dropWhile p = l := by
    cases l with
    | nil => rfl
    | cons c l => rw [List.dropWhile_cons, hl c List.mem_cons_self, if_neg Bool.false_ne_true]
  rw [hkept h, hkept fun c hc => h c (List.mem_reverse.mp hc), List.reverse_reverse]

/-- A text without blanks is trimmed to itself. -/
theorem trimChars_of_solid {cs : List Char} (h : ∀ c ∈ cs, isBlank c = false) :
    trimChars cs = cs :=
  strip_of_solid h

/-! ## Digits -/

theorem isDigit_iff_toNat {c : Char} : c.isDigit = true ↔ 48 ≤ c.toNat ∧ c.toNat ≤ 57 := by
  rw [Char.isDigit, Bool.and_eq_true, decide_eq_true_eq, decide_eq_true_eq]
  exact Iff.rfl

theorem isBlank_of_isDigit {c : Char} (h : c.isDigit = true) : isBlank c = false := by
  have hrange := isDigit_iff_toNat.mp h
  rw [← Bool.not_eq_true]
  simp only [isBlank, Bool.or_eq_true, Bool.and_eq_true, decide_eq_true_eq, beq_iff_eq]
  omega

/-- The value of an ASCII digit. -/
theorem digitValue?_of_isDigit {c : Char} (h : c.isDigit = true) :
    digitValue? c = some (c.toNat - '0'.toNat) := by
  have hrange := isDigit_iff_toNat.mp h
  have hfirst : (decide (0x30 ≤ c.toNat) && decide (c.toNat < 0x30 + 10)) = true := by
    rw [Bool.and_eq_true, decide_eq_true_eq, decide_eq_true_eq]
    omega
  rw [digitValue?, zeros, List.find?_cons_of_pos (by exact hfirst)]
  rfl

/-- The values of ASCII digits, one for each of them. -/
theorem digitsOf?_of_isDigit {cs : List Char} (h : ∀ c ∈ cs, c.isDigit = true) (hne : cs ≠ []) :
    digitsOf? cs = some (cs.map fun c => c.toNat - '0'.toNat) := by
  induction cs with
  | nil => exact absurd rfl hne
  | cons c cs ih =>
    obtain ⟨hc, hcs⟩ := List.forall_mem_cons.mp h
    cases cs with
    | nil => rw [digitsOf?, digitValue?_of_isDigit hc]; rfl
    | cons d rest =>
      have hd : d ≠ '_' := by
        rintro rfl
        exact absurd (hcs '_' List.mem_cons_self) (by decide)
      rw [digitsOf?, digitValue?_of_isDigit hc, beq_false_of_ne hd, if_neg Bool.false_ne_true,
        ih hcs (List.cons_ne_nil d rest)]
      rfl

theorem digitsOf?_ne_nil {cs : List Char} {ds : List Nat} (h : digitsOf? cs = some ds) :
    ds ≠ [] := by
  rintro rfl
  match cs with
  | [] => cases h
  | [c] =>
    rw [digitsOf?, Option.map_eq_some_iff] at h
    obtain ⟨n, -, hn⟩ := h
    cases hn
  | c :: d :: rest =>
    rw [digitsOf?] at h
    split at h <;> cases h

/-! ## Numbers -/

theorem splitSign_of_isDigit {cs : List Char} (h : ∀ c ∈ cs, c.isDigit = true) :
    splitSign cs = (false, cs) := by
  cases cs with
  | nil => rfl
  | cons c cs =>
    have hc : c.isDigit = true := h c List.mem_cons_self
    rw [splitSign]
    · rintro rest ⟨⟩
      exact absurd hc (by decide)
    · rintro rest ⟨⟩
      exact absurd hc (by decide)

/-- A number is read from its decimal digits, if they are not too many. -/
theorem readInteger_toDigits {n : Nat} (h : (Nat.toDigits 10 n).length ≤ digitLimit) :
    readInteger (String.ofList (Nat.toDigits 10 n)) = .ok n := by
  have hdigits : ∀ c ∈ Nat.toDigits 10 n, c.isDigit = true :=
    fun c hc => Nat.isDigit_of_mem_toDigits (by decide) (by decide) hc
  have hcore : (((Nat.toDigits 10 n).dropWhile isNumberBlank).reverse.dropWhile
      isNumberBlank).reverse = Nat.toDigits 10 n := by
    apply strip_of_solid
    intro c hc
    rw [isNumberBlank, isBlank_of_isDigit (hdigits c hc), Bool.false_and]
  simp only [readInteger, String.toList_ofList, hcore, splitSign_of_isDigit hdigits,
    digitsOf?_of_isDigit hdigits (Nat.toDigits_ne_nil), List.length_map, Bool.false_eq_true,
    if_false, ofDigits_toDigits]
  rw [if_neg (Nat.not_lt.mpr h)]

/-- No number that is read has too many digits. -/
theorem length_toDigits_of_readInteger {s : String} {n : Int} (h : readInteger s = .ok n) :
    (Nat.toDigits 10 n.natAbs).length ≤ digitLimit := by
  simp only [readInteger] at h
  split at h
  · cases h
  · rename_i digits hdigits
    split at h
    · cases h
    · rename_i hshort
      have hlength := length_toDigits_ofDigits (digitsOf?_lt hdigits) (digitsOf?_ne_nil hdigits)
      have habs : n.natAbs = ofDigits digits := by
        cases h
        split
        · rw [Int.natAbs_neg, Int.natAbs_natCast]
        · rw [Int.natAbs_natCast]
      rw [habs]
      exact hlength.trans (Nat.not_lt.mp hshort)

end MigrationSafety.Text
