import MigrationSafety.Proofs.ColumnType.Grammar
import MigrationSafety.Proofs.Outcome

/-!
# Column types that can be read

Reading a column type stops only at a number with too many digits. The numbers of a written type are
the pieces between its parentheses; a plainly written one is read as it stands.

* `ColumnType.numbers`: the numbers that a type is written with;
* `ColumnType.isReadable_iff`: a type can be read if none of them has too many digits;
* `ColumnType.readModifiers_of_digits`, `ColumnType.length_toDigits_of_readModifiers`: numbers are
  read back from their digits, and none that is read has too many;
* `ColumnType.numbers_varcharOf`: the number of a plainly written type.
-/

namespace MigrationSafety

namespace Text

/-! ## Pieces -/

theorem splitAtEach_eq_splitOn (sep : Char) (cs : List Char) :
    splitAtEach sep cs = cs.splitOn sep := by
  induction cs with
  | nil => rfl
  | cons c cs ih =>
    rw [splitAtEach, List.splitOn_cons_eq_if_modifyHead, ih]
    split
    · rfl
    · cases hpieces : cs.splitOn sep with
      | nil => exact absurd hpieces (List.splitOn_ne_nil sep cs)
      | cons piece pieces => rfl

theorem mem_of_mem_splitAtEach {sep : Char} {cs piece : List Char} {c : Char}
    (hpiece : piece ∈ splitAtEach sep cs) (hc : c ∈ piece) : c ∈ cs ∧ c ≠ sep := by
  induction cs generalizing piece with
  | nil =>
    rw [splitAtEach, List.mem_singleton] at hpiece
    rw [hpiece] at hc
    cases hc
  | cons d cs ih =>
    rw [splitAtEach] at hpiece
    split at hpiece
    · rcases List.mem_cons.mp hpiece with rfl | hpiece
      · cases hc
      · exact (ih hpiece hc).imp_left (.tail d)
    · rename_i hd
      split at hpiece
      · rename_i hnil
        exact absurd hnil (splitAtEach_ne_nil sep cs)
      · rename_i first pieces hcons
        rw [hcons] at ih
        rcases List.mem_cons.mp hpiece with rfl | hpiece
        · rcases List.mem_cons.mp hc with rfl | hc
          · exact ⟨.head _, fun heq => hd (beq_iff_eq.mpr heq)⟩
          · exact (ih (.head _) hc).imp_left (.tail d)
        · exact (ih (.tail _ hpiece) hc).imp_left (.tail d)

/-- A number has no more digits than it is written with. -/
theorem length_toDigits_ofDigits {ds : List Nat} (h : ∀ d ∈ ds, d < 10) (hne : ds ≠ []) :
    (Nat.toDigits 10 (ofDigits ds)).length ≤ ds.length := by
  have hstep (n : Nat) : ds.foldl (fun n d => 10 * n + d) n < (n + 1) * 10 ^ ds.length := by
    clear hne
    induction ds generalizing n with
    | nil => simp
    | cons d ds ih =>
      obtain ⟨hd, hds⟩ := List.forall_mem_cons.mp h
      calc (d :: ds).foldl (fun n d => 10 * n + d) n
          < (10 * n + d + 1) * 10 ^ ds.length := ih hds _
        _ ≤ ((n + 1) * 10) * 10 ^ ds.length := Nat.mul_le_mul_right _ (by omega)
        _ = (n + 1) * 10 ^ (d :: ds).length := by
            rw [Nat.mul_assoc, ← Nat.pow_succ', List.length_cons]
  rw [Nat.length_toDigits_le_iff (by decide) (List.length_pos_iff.mpr hne), ofDigits]
  simpa using hstep 0

/-- The digits of a number write the number. -/
theorem ofDigits_toDigits (n : Nat) :
    ofDigits ((Nat.toDigits 10 n).map fun c => c.toNat - '0'.toNat) = n := by
  rw [ofDigits, List.foldl_map, ← Nat.ofDigitChars_eq_foldl, Nat.ofDigitChars_ten_toDigits]

end Text

namespace ColumnType

/-! ## Numbers -/

/-- The numbers that stand between the parentheses of a spelling. -/
def Spelling.pieces (s : Spelling) : List (List Char) :=
  (Text.splitAtEach ',' ((s.numbers.getD []).filter (· != ' '))).filter (!·.isEmpty)

/-- The numbers that a type is written with. -/
def numbers (spec : String) : List (List Char) :=
  ((Spelling.ofChars? (normalize spec)).map Spelling.pieces).getD []

/-- Whether none of the numbers of a type has too many digits. -/
def isReadable (spec : String) : Bool :=
  (numbers spec).all (·.length ≤ Text.digitLimit)

/-- A type can be read if none of its numbers has too many digits. -/
theorem isReadable_iff {spec : String} :
    isReadable spec = true ↔ ∃ t, parse spec = .ok t := by
  rw [isReadable, numbers, parse_eq]
  cases Spelling.ofChars? (normalize spec) with
  | none => simp
  | some spelling =>
    show spelling.pieces.all (·.length ≤ Text.digitLimit) = true ↔
      ∃ t, (readModifiers (spelling.numbers.getD [])).map _ = .ok t
    rw [List.all_eq_true]
    simp only [decide_eq_true_eq]
    constructor
    · intro h
      obtain ⟨ms, hms⟩ : ∃ ms, readModifiers (spelling.numbers.getD []) = .ok ms :=
        mapM_total fun digits hdigits => ⟨_, if_neg (Nat.not_lt.mpr (h digits hdigits))⟩
      exact ⟨_, congrArg (Except.map _) hms⟩
    · rintro ⟨t, ht⟩ digits hdigits
      cases hms : readModifiers (spelling.numbers.getD []) with
      | error fault =>
        rw [hms] at ht
        cases ht
      | ok ms =>
        obtain ⟨i, hi⟩ := List.getElem?_of_mem hdigits
        obtain ⟨n, -, hn⟩ := getElem?_of_forall₂ (mapM_eq_ok.mp hms) hi
        split at hn
        · cases hn
        · exact Nat.not_lt.mp ‹_›

/-- Between the parentheses of a type, only commas may stand in no name. -/
theorem isNameChar_of_isNumbersChar {c : Char} (h : Spelling.isNumbersChar c = true) :
    Spelling.isNameChar c = true ∨ c = ',' := by
  simp only [Spelling.isNumbersChar, Bool.or_eq_true] at h
  rcases h with (h | h) | h
  · exact .inl (by simp [Spelling.isNameChar, h])
  · exact .inl (by simp [Spelling.isNameChar, h])
  · exact .inr (beq_iff_eq.mp h)

/-- The characters between the parentheses of a type are in lower case and hold no blanks but
spaces. -/
theorem isLowered_of_isNumbersChar {c : Char} (h : Spelling.isNumbersChar c = true) :
    Text.isLowered c = true ∧ (Text.isBlank c = true → c = ' ') := by
  rcases isNameChar_of_isNumbersChar h with h | rfl
  · exact isLowered_of_isNameChar h
  · decide +kernel

/-- Digits may stand between the parentheses of a type. -/
theorem isNumbersChar_of_isDigit {c : Char} (h : c.isDigit = true) :
    Spelling.isNumbersChar c = true ∧ c ≠ ' ' ∧ c ≠ ',' := by
  rw [Char.isDigit, Bool.and_eq_true, decide_eq_true_eq, decide_eq_true_eq] at h
  refine ⟨?_, ?_, ?_⟩
  · have hzero : '0' ≤ c := h.1
    have hnine : c ≤ '9' := h.2
    simp [Spelling.isNumbersChar, hzero, hnine]
  · rintro rfl
    exact absurd h (by decide)
  · rintro rfl
    exact absurd h (by decide)

/-- So may numbers with commas between them. -/
theorem isNumbersChar_intercalate {ms : List Nat} {c : Char}
    (h : c ∈ [','].intercalate (ms.map (Nat.toDigits 10))) :
    Spelling.isNumbersChar c = true ∧ c ≠ ' ' := by
  rcases Text.mem_intercalate h with rfl | ⟨digits, hdigits, hc⟩
  · decide
  · obtain ⟨m, -, rfl⟩ := List.mem_map.mp hdigits
    have hdigit := isNumbersChar_of_isDigit (Nat.isDigit_of_mem_toDigits (by decide) (by decide) hc)
    exact ⟨hdigit.1, hdigit.2.1⟩

/-- Between the parentheses of a type, whatever is neither a space nor a comma is a digit. -/
theorem sub_lt_of_isNumbersChar {c : Char} (h : Spelling.isNumbersChar c = true) (hspace : c ≠ ' ')
    (hcomma : c ≠ ',') : c.toNat - '0'.toNat < 10 := by
  simp only [Spelling.isNumbersChar, Bool.or_eq_true, Bool.and_eq_true, decide_eq_true_eq,
    beq_iff_eq, hspace, hcomma, or_false] at h
  have hnine : c.toNat ≤ '9'.toNat := h.2
  exact Nat.sub_lt_left_of_lt_add h.1 (Nat.lt_succ_of_le hnine)

/-- The spelling of a name with numbers directly behind it is its own normal form. -/
theorem normalize_numbers {name numbers : List Char} (hname : IsTypeName name)
    (hsqueezed : Text.IsSqueezed name)
    (hnumbers : ∀ c ∈ numbers, Spelling.isNumbersChar c = true ∧ c ≠ ' ') :
    normalize (String.ofList (name ++ '(' :: (numbers ++ [')']))) =
      name ++ '(' :: (numbers ++ [')']) := by
  have hchar : ∀ c ∈ '(' :: (numbers ++ [')']),
      Text.isLowered c = true ∧ Text.isBlank c = false := by
    intro c hc
    rw [List.mem_cons, List.mem_append, List.mem_singleton] at hc
    rcases hc with rfl | hc | rfl
    · decide +kernel
    · obtain ⟨hnumber, hne⟩ := hnumbers c hc
      obtain ⟨hlower, hblank⟩ := isLowered_of_isNumbersChar hnumber
      exact ⟨hlower, Bool.eq_false_iff.mpr fun h => hne (hblank h)⟩
    · decide +kernel
  refine normalize_of_isSqueezed
    (hsqueezed.append_solid hname.ne_nil fun c hc => (hchar c hc).2) fun c hc => ?_
  rcases List.mem_append.mp hc with hc | hc
  · exact (isLowered_of_isNameChar (hname.chars c hc)).1
  · exact (hchar c hc).1

/-- Numbers are read back from their digits, whatever the spaces between them. -/
theorem readModifiers_of_digits {cs : List Char} {ms : List Nat}
    (h : cs.filter (· != ' ') = [','].intercalate (ms.map (Nat.toDigits 10)))
    (hshort : ∀ m ∈ ms, (Nat.toDigits 10 m).length ≤ Text.digitLimit) :
    readModifiers cs = .ok ms := by
  have hpieces : (Text.splitAtEach ',' (cs.filter (· != ' '))).filter (!·.isEmpty) =
      ms.map (Nat.toDigits 10) := by
    rw [h, Text.splitAtEach_eq_splitOn]
    by_cases hnil : ms = []
    · rw [hnil]
      rfl
    · have hcomma : ∀ digits ∈ ms.map (Nat.toDigits 10), ',' ∉ digits := by
        intro digits hdigits hmem
        obtain ⟨m, -, rfl⟩ := List.mem_map.mp hdigits
        have hdigit := Nat.isDigit_of_mem_toDigits (by decide) (by decide) hmem
        exact (isNumbersChar_of_isDigit hdigit).2.2 rfl
      rw [List.splitOn_intercalate ',' hcomma (by simpa using hnil), List.filter_eq_self]
      intro digits hdigits
      obtain ⟨m, -, rfl⟩ := List.mem_map.mp hdigits
      simp [Nat.toDigits_ne_nil]
  rw [readModifiers, hpieces, mapM_eq_ok, List.forall₂_map_left_iff, List.forall₂_same]
  intro m hm
  rw [if_neg (Nat.not_lt.mpr (hshort m hm)), Text.ofDigits_toDigits]

/-- No number that is read has too many digits. -/
theorem length_toDigits_of_readModifiers {cs : List Char} {ms : List Nat}
    (hchars : ∀ c ∈ cs, Spelling.isNumbersChar c = true) (h : readModifiers cs = .ok ms) :
    ∀ m ∈ ms, (Nat.toDigits 10 m).length ≤ Text.digitLimit := by
  rw [readModifiers, mapM_eq_ok] at h
  intro m hm
  obtain ⟨digits, hdigits, hread⟩ := exists_of_forall₂ h hm
  split at hread
  · cases hread
  · rename_i hshort
    cases hread
    have hdigit : ∀ d ∈ digits.map fun c => c.toNat - '0'.toNat, d < 10 := by
      intro d hd
      obtain ⟨c, hc, rfl⟩ := List.mem_map.mp hd
      obtain ⟨hmem, hcomma⟩ := Text.mem_of_mem_splitAtEach (List.mem_of_mem_filter hdigits) hc
      obtain ⟨hmem, hspace⟩ := List.mem_filter.mp hmem
      exact sub_lt_of_isNumbersChar (hchars c hmem) (bne_iff_ne.mp hspace) hcomma
    have hne : digits ≠ [] := by simpa using (List.mem_filter.mp hdigits).2
    have hlength := Text.length_toDigits_ofDigits hdigit (by simpa using hne)
    rw [List.length_map] at hlength
    exact hlength.trans (Nat.not_lt.mp hshort)

/-! ## Plainly written types -/

/-- The digits of plainly written numbers. -/
def plainDigits : List Char := ['0', '1', '2', '3', '4', '5', '6', '7', '8', '9']

/-- The type of texts of a limited length, written with the given digits. -/
def varcharOf (digits : List Char) : String :=
  String.ofList (['v', 'a', 'r', 'c', 'h', 'a', 'r', '('] ++ (digits ++ [')']))

/-- The number of a plainly written type is the one between its parentheses. -/
theorem numbers_varcharOf {digits : List Char} (h : ∀ c ∈ digits, c ∈ plainDigits)
    (hne : digits ≠ []) : numbers (varcharOf digits) = [digits] := by
  have hdigit : plainDigits.all Char.isDigit = true := by decide
  have hnumber : ∀ c ∈ digits, Spelling.isNumbersChar c = true ∧ c ≠ ' ' ∧ c ≠ ',' :=
    fun c hc => isNumbersChar_of_isDigit (List.all_eq_true.mp hdigit c (h c hc))
  have hname : IsTypeName ['v', 'a', 'r', 'c', 'h', 'a', 'r'] := by decide
  have hnormal := normalize_numbers hname (by decide) fun c hc => (hnumber c hc).imp_right And.left
  have hspelling := @ofChars?_numbers _ _ none hname (fun c hc => (hnumber c hc).1) nofun
  have hfilter : digits.filter (· != ' ') = digits :=
    List.filter_eq_self.mpr fun c hc => bne_iff_ne.mpr (hnumber c hc).2.1
  have hcomma : ',' ∉ digits := fun hc => (hnumber ',' hc).2.2 rfl
  have hsingle : Text.splitAtEach ',' digits = [digits] := by
    rw [Text.splitAtEach_eq_splitOn, List.splitOn_eq_singleton hcomma]
  rw [numbers, show varcharOf digits = String.ofList
      (['v', 'a', 'r', 'c', 'h', 'a', 'r'] ++ '(' :: (digits ++ [')'])) from rfl, hnormal]
  rw [zoneText] at hspelling
  rw [hspelling]
  simpa [Spelling.pieces, hfilter, hsingle] using hne

end ColumnType

end MigrationSafety
