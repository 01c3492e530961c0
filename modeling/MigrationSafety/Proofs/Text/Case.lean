import MigrationSafety.Text.Blank
import MigrationSafety.Text.Case

/-!
# Lower case is kept

The lower-case form of a letter is no capital letter again, so a text in lower case stays as it is.
Capital letters come in runs with a step, and no run meets another one that is moved to lower case.
The lower-case form of ASCII letters and blanks is taken letter by letter.

* `isLowered`: a character that lower case leaves alone;
* `isLowered_of_mem_lowerFrom`, `lowerFrom_of_isLowered`: lower case consists of such characters,
  and texts of such characters are left alone;
* `lowerFrom_of_isSimple`: the lower-case form of a text of ASCII letters and blanks;
* `startsWithFolded?_eq_some_iff`: a word at the head of a text, whatever the case of its letters.
-/

namespace MigrationSafety.Text

/-! ## Runs of capital letters -/

/-- Whether a code point belongs to a run. -/
def inRun (n : Nat) (run : Nat × Nat × Nat × Int) : Bool :=
  run.1 ≤ n && n ≤ run.2.1 && (n - run.1) % run.2.2.1 == 0

/-- Whether a character is a letter of one of the runs. -/
def isCapital (c : Char) : Bool :=
  capitalRuns.any (inRun c.toNat)

theorem lowerChar_of_ascii {c : Char} (h : c.toNat < 0x80) : lowerChar c = c.toLower :=
  if_pos h

theorem lowerChar_of_find? {c : Char} (h : ¬c.toNat < 0x80) {run : Nat × Nat × Nat × Int}
    (hrun : capitalRuns.find? (inRun c.toNat) = some run) :
    lowerChar c = Char.ofNat (c.toNat + run.2.2.2).toNat := by
  rw [lowerChar, if_neg h]
  unfold inRun at hrun
  rw [hrun]

theorem lowerChar_of_find?_none {c : Char} (h : ¬c.toNat < 0x80)
    (hrun : capitalRuns.find? (inRun c.toNat) = none) : lowerChar c = c := by
  rw [lowerChar, if_neg h]
  unfold inRun at hrun
  rw [hrun]

/-- Whether two progressions, each given by its first and last member and its step, have no member
in common because one ends before the other begins, or because one is even and the other odd. -/
def apart (first last step first' last' step' : Nat) : Bool :=
  last.blt first' || last'.blt first ||
    ((step.beq 2 || first.beq last) && step'.beq 2 && ((first + first') % 2).beq 1)

theorem not_inRun_of_apart {first last step n : Nat} {run : Nat × Nat × Nat × Int}
    (h : apart first last step run.1 run.2.1 run.2.2.1 = true) (hfirst : first ≤ n)
    (hlast : n ≤ last) (hstep : (n - first) % step = 0) : inRun n run = false := by
  obtain ⟨first', last', step', distance⟩ := run
  simp only [apart, Bool.or_eq_true, Bool.and_eq_true, Nat.blt_eq, Nat.beq_eq] at h
  simp only [inRun, Bool.and_eq_false_iff, decide_eq_false_iff_not, beq_eq_false_iff_ne]
  rcases h with (h | h) | ⟨⟨hstep₂ | hsingle, rfl⟩, hparity⟩
  · omega
  · omega
  · subst hstep₂
    omega
  · omega

/-- The lower-case form of the first letter of a run. -/
def loweredFirst (run : Nat × Nat × Nat × Int) : Nat :=
  (run.1 + run.2.2.2).toNat

/-- The lower-case form of the last letter of a run. -/
def loweredLast (run : Nat × Nat × Nat × Int) : Nat :=
  (run.2.1 + run.2.2.2).toNat

/-- In lower case, runs meet no run. -/
theorem lowered_apart : capitalRuns.all (fun run => capitalRuns.all fun run' =>
    apart (loweredFirst run) (loweredLast run) run.2.2.1 run'.1 run'.2.1 run'.2.2.1) = true := by
  decide +kernel

/-- In lower case, runs consist of characters, and have the dotted capital I not among them. -/
theorem lowered_valid : capitalRuns.all (fun run => 0 ≤ run.1 + run.2.2.2 &&
    (loweredLast run < 0xD800 || (0xDFFF < loweredFirst run && loweredLast run < 0x110000)) &&
    (loweredLast run < 0x130 || 0x130 < loweredFirst run)) = true := by
  decide +kernel

theorem toNat_ofNat {n : Nat} (h : n < 0xD800 ∨ 0xDFFF < n ∧ n < 0x110000) :
    (Char.ofNat n).toNat = n := by
  rw [Char.ofNat, dif_pos h]
  rfl

/-! ## Lower case of one letter -/

/-- Whether lower case leaves a character alone. -/
def isLowered (c : Char) : Bool :=
  !isCapital c && c != '\u0130'

theorem toLower_eq_self {c : Char} (h : c.toNat < 0x41 ∨ 0x5A < c.toNat) : c.toLower = c := by
  have hno : ¬(c.val ≥ 'A'.val ∧ c.val ≤ 'Z'.val) := by
    simp only [ge_iff_le, UInt32.le_iff_toNat_le]
    exact fun ⟨hA, hZ⟩ => h.elim (fun h => absurd hA (Nat.not_le.mpr h))
      (fun h => absurd hZ (Nat.not_le.mpr h))
  exact dif_neg hno

theorem lowerChar_of_not_isCapital {c : Char} (h : isCapital c = false) : lowerChar c = c := by
  rw [isCapital, List.any_eq_false] at h
  by_cases hascii : c.toNat < 0x80
  · have hno : ¬inRun c.toNat (0x41, 0x5A, 1, 32) = true := h _ (.head _)
    simp only [inRun, Nat.mod_one, beq_self_eq_true, Bool.and_true, Bool.and_eq_true,
      decide_eq_true_eq] at hno
    rw [lowerChar_of_ascii hascii, toLower_eq_self (by omega)]
  · exact lowerChar_of_find?_none hascii (List.find?_eq_none.mpr h)

/-- The lower-case form of a letter of a run is left alone. -/
theorem isLowered_of_inRun {run : Nat × Nat × Nat × Int} (hmem : run ∈ capitalRuns) {m : Nat}
    (h : inRun m run = true) : isLowered (Char.ofNat (m + run.2.2.2).toNat) = true := by
  have hvalid := List.all_eq_true.mp lowered_valid run hmem
  have hapart := List.all_eq_true.mp lowered_apart run hmem
  simp only [inRun, Bool.and_eq_true, decide_eq_true_eq, beq_iff_eq] at h
  simp only [Bool.and_eq_true, Bool.or_eq_true, decide_eq_true_eq] at hvalid
  obtain ⟨⟨hfirst, hlast⟩, hstep⟩ := h
  -- The letter keeps its place in the run.
  generalize hn : (m + run.2.2.2).toNat = n
  have hfirst' : loweredFirst run ≤ n := by
    rw [loweredFirst]
    omega
  have hlast' : n ≤ loweredLast run := by
    rw [loweredLast]
    omega
  have hplace : n - loweredFirst run = m - run.1 := by
    rw [loweredFirst]
    omega
  have hchar : (Char.ofNat n).toNat = n := toNat_ofNat (by omega)
  rw [isLowered, Bool.and_eq_true, Bool.not_eq_true', isCapital, List.any_eq_false, hchar]
  refine ⟨fun run' hmem' => ?_, bne_iff_ne.mpr fun heq => ?_⟩
  · rw [not_inRun_of_apart (List.all_eq_true.mp hapart run' hmem') hfirst' hlast' (hplace ▸ hstep)]
    exact Bool.false_ne_true
  · have hdotted : n = 0x130 := hchar.symm.trans (congrArg Char.toNat heq)
    omega

/-- Beyond the ASCII letters there are no capital letters in ASCII. -/
theorem capitalRuns_ascii : capitalRuns.all (fun run =>
    run == (0x41, 0x5A, 1, 32) || Nat.ble 0x80 run.1) = true := by
  decide +kernel

theorem toLower_capital : ∀ n < 0x80, 0x41 ≤ n → n ≤ 0x5A →
    (Char.ofNat n).toLower = Char.ofNat (n + 32) := by
  decide

theorem isLowered_toLower {c : Char} (hascii : c.toNat < 0x80) : isLowered c.toLower = true := by
  by_cases hcapital : 0x41 ≤ c.toNat ∧ c.toNat ≤ 0x5A
  · have hlower := toLower_capital c.toNat hascii hcapital.1 hcapital.2
    rw [Char.ofNat_toNat] at hlower
    rw [hlower]
    refine @isLowered_of_inRun (0x41, 0x5A, 1, 32) (.head _) _ ?_
    simp [inRun, hcapital, Nat.mod_one]
  · have hno : isCapital c = false := by
      rw [isCapital, List.any_eq_false]
      intro run hmem
      have hrun := List.all_eq_true.mp capitalRuns_ascii run hmem
      simp only [Bool.or_eq_true, beq_iff_eq, Nat.ble_eq] at hrun
      simp only [inRun, Bool.and_eq_true, decide_eq_true_eq, beq_iff_eq]
      rcases hrun with rfl | hrun
      · dsimp only
        omega
      · omega
    have hdotted : c ≠ '\u0130' := by
      rintro rfl
      exact absurd hascii (by decide)
    rw [toLower_eq_self (by omega)]
    simp [isLowered, hno, hdotted]

/-- The lower-case form of a letter is left alone. -/
theorem isLowered_lowerChar {c : Char} (hc : c ≠ '\u0130') : isLowered (lowerChar c) = true := by
  by_cases hascii : c.toNat < 0x80
  · rw [lowerChar_of_ascii hascii]
    exact isLowered_toLower hascii
  · cases hfind : capitalRuns.find? (inRun c.toNat) with
    | some run =>
      rw [lowerChar_of_find? hascii hfind]
      exact isLowered_of_inRun (List.mem_of_find?_eq_some hfind)
        (List.find?_some (p := inRun c.toNat) hfind)
    | none =>
      have hno : isCapital c = false := List.any_eq_false.mpr (List.find?_eq_none.mp hfind)
      rw [lowerChar_of_find?_none hascii hfind]
      simp [isLowered, hno, hc]

/-! ## Lower case of a text -/

/-- Lower case consists of characters that it leaves alone. -/
theorem isLowered_of_mem_lowerFrom {before cs : List Char} {c : Char}
    (h : c ∈ lowerFrom before cs) : isLowered c = true := by
  induction cs generalizing before with
  | nil => cases h
  | cons d cs ih =>
    rw [lowerFrom, List.mem_append] at h
    refine h.elim (fun h => ?_) ih
    split at h
    · have hdotted : ['i', '\u0307'].all isLowered = true := by decide +kernel
      exact List.all_eq_true.mp hdotted c h
    · rename_i hd
      split at h
      · rw [List.mem_singleton.mp h]
        decide +kernel
      · rw [List.mem_singleton.mp h]
        exact isLowered_lowerChar fun heq => hd (beq_iff_eq.mpr heq)

/-- A character that lower case leaves alone is none of the two that it treats by themselves. -/
theorem lowerFrom_cons_of_isLowered {c : Char} (h : isLowered c = true) (before cs : List Char) :
    lowerFrom before (c :: cs) = c :: lowerFrom (c :: before) cs := by
  rw [isLowered, Bool.and_eq_true, Bool.not_eq_true', bne_iff_ne] at h
  have hdotted : (c == '\u0130') = false := beq_eq_false_iff_ne.mpr h.2
  have hsigma : (c == '\u03A3') = false := by
    rw [beq_eq_false_iff_ne]
    rintro rfl
    exact absurd h.1 (by decide)
  rw [lowerFrom, hdotted, hsigma, lowerChar_of_not_isCapital h.1]
  rfl

/-- A text of characters that lower case leaves alone is left alone. -/
theorem lowerFrom_of_isLowered {cs : List Char} (h : ∀ c ∈ cs, isLowered c = true)
    (before : List Char) : lowerFrom before cs = cs := by
  induction cs generalizing before with
  | nil => rfl
  | cons c cs ih =>
    obtain ⟨hc, hcs⟩ := List.forall_mem_cons.mp h
    rw [lowerFrom_cons_of_isLowered hc, ih hcs]

/-! ## ASCII letters and blanks -/

/-- Whether a character is an ASCII character or blank. -/
def isSimple (c : Char) : Bool :=
  c.toNat < 0x80 || isBlank c

/-- Such a character is in lower case only if it is before. -/
theorem isSimple_of_toLower {c : Char} (h : isSimple c.toLower = true) : isSimple c = true := by
  by_cases hascii : c.toNat < 0x80
  · simp [isSimple, hascii]
  · rwa [toLower_eq_self (.inr (by omega))] at h

/-- The code points of the blanks. -/
def blankPoints : List Nat :=
  List.range' 0x09 5 ++ List.range' 0x1C 5 ++ [0x85, 0xA0, 0x1680] ++ List.range' 0x2000 11 ++
    [0x2028, 0x2029, 0x202F, 0x205F, 0x3000]

theorem toNat_mem_of_isBlank {c : Char} (h : isBlank c = true) : c.toNat ∈ blankPoints := by
  simp only [isBlank, Bool.or_eq_true, Bool.and_eq_true, decide_eq_true_eq, beq_iff_eq] at h
  simp only [blankPoints, List.mem_append, List.mem_range'_1, List.mem_cons, List.not_mem_nil,
    or_false]
  omega

theorem isLowered_blankPoints : ∀ n ∈ blankPoints, isLowered (Char.ofNat n) = true ∧
    (Char.ofNat n).toLower = Char.ofNat n := by
  decide +kernel

/-- Blanks are left alone. -/
theorem isLowered_of_isBlank {c : Char} (h : isBlank c = true) :
    isLowered c = true ∧ c.toLower = c := by
  have hpoint := isLowered_blankPoints c.toNat (toNat_mem_of_isBlank h)
  rwa [Char.ofNat_toNat] at hpoint

/-- The lower-case form of a text of ASCII characters and blanks, letter by letter. -/
theorem lowerFrom_of_isSimple {cs : List Char} (h : ∀ c ∈ cs, isSimple c = true)
    (before : List Char) : lowerFrom before cs = cs.map Char.toLower := by
  induction cs generalizing before with
  | nil => rfl
  | cons c cs ih =>
    obtain ⟨hc, hcs⟩ := List.forall_mem_cons.mp h
    rw [List.map_cons]
    cases hblank : isBlank c with
    | true =>
      obtain ⟨hlowered, hsame⟩ := isLowered_of_isBlank hblank
      rw [lowerFrom_cons_of_isLowered hlowered, hsame, ih hcs]
    | false =>
      have hascii : c.toNat < 0x80 := by simpa [isSimple, hblank] using hc
      have hne {d : Char} (hd : 0x80 ≤ d.toNat) : (c == d) = false := by
        rw [beq_eq_false_iff_ne]
        rintro rfl
        exact Nat.not_le.mpr hascii hd
      rw [lowerFrom, hne (by decide), hne (by decide), lowerChar_of_ascii hascii, ih hcs]
      rfl

/-! ## Ignoring case -/

/-- A word stands at the head of a text, ignoring case, if the text starts with letters that stand
for those of the word. -/
theorem startsWithFolded?_eq_some_iff {word text rest : List Char} :
    startsWithFolded? word text = some rest ↔ ∃ f, text = f ++ rest ∧ f.map foldLetter = word := by
  induction word generalizing text with
  | nil => simp [startsWithFolded?]
  | cons w word ih =>
    match text with
    | [] => simp [startsWithFolded?]
    | c :: text =>
      rw [startsWithFolded?]
      constructor
      · intro h
        obtain ⟨hc, h⟩ := Option.ite_none_right_eq_some.mp h
        obtain ⟨f, rfl, rfl⟩ := ih.mp h
        exact ⟨c :: f, rfl, by rw [List.map_cons, beq_iff_eq.mp hc]⟩
      · intro ⟨f, htext, hf⟩
        obtain ⟨d, g, rfl, hd, hg⟩ := List.map_eq_cons_iff.mp hf
        obtain ⟨rfl, rfl⟩ := List.cons.inj htext
        rw [if_pos (beq_iff_eq.mpr hd)]
        exact ih.mpr ⟨g, rfl, hg⟩

end MigrationSafety.Text
