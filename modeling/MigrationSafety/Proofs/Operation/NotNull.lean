import Mathlib.Data.List.TakeWhile
import MigrationSafety.Operation.NotNull
import MigrationSafety.Proofs.Text.Case
import MigrationSafety.Proofs.Text.Words

/-!
# What counts as a check against null

An expression is taken for a check of a column against null exactly if it is written as one: blanks
with at most one opening parenthesis, the name of the column with at most one double quote on each
side, the words `IS`, `NOT` and `NULL` in any case, each after blanks, and blanks with at most one
closing parenthesis. The characters of names, the blanks and the signs exclude each other, so an
expression can be read in one way only. Nothing else stands in it.

* `ForbidsNull`: the grammar;
* `skipPadding_append`, `takeName_append`, `afterWords?_eq_some_iff`: what is read of each part;
* `notNullColumn?_eq_some_iff`: the expressions that are taken for a check of a column;
* `ForbidsNull.names`, `ForbidsNull.signs`: all that stands in such an expression;
* `notNullColumnOf_iff_forbidsNull`: all of it.
-/

namespace MigrationSafety.Operation

open Text

/-! ## The grammar -/

/-- The letters outside ASCII that stand for letters of ASCII when case is ignored. -/
def foldedLetters : List Char :=
  ['\u0130', '\u0131', '\u017F', '\u212A']

/-- A letter, ignoring case. -/
def isLetter (c : Char) : Bool :=
  c.isAlpha || foldedLetters.contains c

/-- The name of a column: a letter or an underscore, then letters, digits and underscores. -/
structure IsColumnName (name : List Char) : Prop where
  head : ∃ c ∈ name.head?, isLetter c = true ∨ c = '_'
  chars : ∀ c ∈ name, isLetter c = true ∨ c = '_' ∨ c.isDigit = true

/-- A sign that is there once or not at all. -/
def IsOptional (sign : Char) (cs : List Char) : Prop :=
  cs = [] ∨ cs = [sign]

/-- Blanks with at most one sign among them. -/
inductive IsPadding (sign : Char) : (text : List Char) → Prop
  | mk {gap middle gap' : List Char} (hgap : IsGap gap) (hmiddle : IsOptional sign middle)
      (hgap' : IsGap gap') : IsPadding sign (gap ++ middle ++ gap')

/-- Words in any case, each with blanks before it. -/
inductive IsPhrase : (words : List String) → (text : List Char) → Prop
  | nil : IsPhrase [] []
  | cons {gap letters rest : List Char} {word : String} {words : List String} (hgap : IsGap gap)
      (hne : gap ≠ []) (hletters : letters.map foldLetter = word.toList)
      (hrest : IsPhrase words rest) : IsPhrase (word :: words) (gap ++ letters ++ rest)

/-- An expression that says of a column that it is not null, and says nothing else. -/
inductive ForbidsNull (column : List Char) : (expression : List Char) → Prop
  | mk {opening quote quote' phrase closing : List Char} (hopening : IsPadding '(' opening)
      (hquote : IsOptional '\x22' quote) (hcolumn : IsColumnName column)
      (hquote' : IsOptional '\x22' quote') (hphrase : IsPhrase ["is", "not", "null"] phrase)
      (hclosing : IsPadding ')' closing) :
      ForbidsNull column (opening ++ quote ++ column ++ quote' ++ phrase ++ closing)

/-! ## Characters of names -/

theorem isAlpha_of_not_ascii {c : Char} (h : ¬c.toNat < 0x80) :
    c.isLower = false ∧ c.isAlpha = false := by
  have hbelow (last : Char) (hlast : last.val.toNat < 0x80) : ¬c.val ≤ last.val := fun hc =>
    h (Nat.lt_of_le_of_lt (UInt32.le_iff_toNat_le.mp hc) hlast)
  have hlower : c.isLower = false :=
    Bool.and_eq_false_iff.mpr (.inr (decide_eq_false (hbelow 'z' (by decide))))
  have hupper : c.isUpper = false := decide_eq_false fun hc => hbelow 'Z' (by decide) hc.2
  exact ⟨hlower, Bool.or_eq_false_iff.mpr ⟨hupper, hlower⟩⟩

theorem isLower_foldLetter (c : Char) : (foldLetter c).isLower = isLetter c := by
  have hascii : ∀ n < 0x80, (foldLetter (Char.ofNat n)).isLower = isLetter (Char.ofNat n) := by
    decide +kernel
  have hfolded : foldedLetters.all (fun d => (foldLetter d).isLower == isLetter d) = true := by
    decide
  by_cases h : c.toNat < 0x80
  · have hc := hascii c.toNat h
    rwa [Char.ofNat_toNat] at hc
  · by_cases hmem : c ∈ foldedLetters
    · exact beq_iff_eq.mp (List.all_eq_true.mp hfolded c hmem)
    · -- Every other character outside ASCII stands for itself and is no letter.
      have hself : foldLetter c = c := by
        simp only [foldedLetters, List.mem_cons, List.not_mem_nil, or_false, not_or] at hmem
        rw [foldLetter, if_neg (by simp [hmem]), if_neg (by simp [hmem]), if_neg (by simp [hmem])]
        exact toLower_eq_self (.inr (by omega))
      obtain ⟨hlower, halpha⟩ := isAlpha_of_not_ascii h
      rw [hself, isLetter, hlower, halpha]
      simpa using hmem

theorem isNamePart_iff {c : Char} :
    isNamePart c = true ↔ isLetter c = true ∨ c = '_' ∨ c.isDigit = true := by
  simp only [isNamePart, isNameStart, isLower_foldLetter, Bool.or_eq_true, beq_iff_eq, or_assoc]

theorem isNameStart_iff {c : Char} : isNameStart c = true ↔ isLetter c = true ∨ c = '_' := by
  simp only [isNameStart, isLower_foldLetter, Bool.or_eq_true, beq_iff_eq]

/-- No blank stands in a name. -/
theorem isNamePart_of_isBlank {c : Char} (h : isBlank c = true) : isNamePart c = false := by
  have hpoints : ∀ n ∈ blankPoints, isNamePart (Char.ofNat n) = false := by decide +kernel
  have hc := hpoints c.toNat (toNat_mem_of_isBlank h)
  rwa [Char.ofNat_toNat] at hc

theorem isBlank_of_isNamePart {c : Char} (h : isNamePart c = true) : isBlank c = false :=
  Bool.eq_false_iff.mpr fun hblank => absurd h (by simp [isNamePart_of_isBlank hblank])

/-! ## Padding -/

section
variable {sign : Char} {gap padding part rest : List Char}

theorem skipOne_eq_self (h : rest.head? ≠ some sign) : skipOne sign rest = rest := by
  cases rest with
  | nil => rfl
  | cons c rest => exact if_neg fun hc => h (congrArg some (beq_iff_eq.mp hc))

theorem skipOne_cons_self (sign : Char) (rest : List Char) : skipOne sign (sign :: rest) = rest :=
  if_pos (beq_self_eq_true sign)

theorem skipOne_append (h : IsOptional sign part) (hrest : rest.head? ≠ some sign) :
    skipOne sign (part ++ rest) = rest := by
  rcases h with rfl | rfl
  · exact skipOne_eq_self hrest
  · exact skipOne_cons_self sign rest

theorem exists_isOptional (sign : Char) (cs : List Char) :
    ∃ part, IsOptional sign part ∧ cs = part ++ skipOne sign cs := by
  cases cs with
  | nil => exact ⟨[], .inl rfl, rfl⟩
  | cons c cs =>
    rw [skipOne]
    split
    · rename_i hc
      exact ⟨[c], .inr (by rw [beq_iff_eq.mp hc]), rfl⟩
    · exact ⟨[], .inl rfl, rfl⟩

/-- A text begins with a sign that may stand there, or as it goes on. -/
theorem IsOptional.head?_append {p : Char → Prop} (h : IsOptional sign part) (hsign : p sign)
    (hrest : ∀ c ∈ rest.head?, p c) : ∀ c ∈ (part ++ rest).head?, p c := by
  rcases h with rfl | rfl
  · exact hrest
  · rintro c ⟨⟩
    exact hsign

theorem skipBlanks_append (h : IsGap gap) (cs : List Char) :
    skipBlanks (gap ++ cs) = skipBlanks cs :=
  List.dropWhile_append_of_pos h

theorem skipBlanks_eq_self (h : ∀ c ∈ rest.head?, isBlank c = false) : skipBlanks rest = rest := by
  cases rest with
  | nil => rfl
  | cons c rest => exact List.dropWhile_cons_of_neg (by simp [h c rfl])

theorem exists_isGap (cs : List Char) : ∃ gap, IsGap gap ∧ cs = gap ++ skipBlanks cs :=
  ⟨cs.takeWhile isBlank, fun _ => List.mem_takeWhile_imp, List.takeWhile_append_dropWhile.symm⟩

/-- A text without the blanks at its head and a sign among them. -/
def skipPadding (sign : Char) (cs : List Char) : List Char :=
  skipBlanks (skipOne sign (skipBlanks cs))

/-- Padding is skipped up to where the text goes on with something else. -/
theorem skipPadding_append (hsign : isBlank sign = false) (hpadding : IsPadding sign padding)
    (hrest : ∀ c ∈ rest.head?, isBlank c = false ∧ c ≠ sign) :
    skipPadding sign (padding ++ rest) = rest := by
  have hself : skipBlanks rest = rest := skipBlanks_eq_self fun c hc => (hrest c hc).1
  have hstop : rest.head? ≠ some sign := fun hhead => (hrest sign hhead).2 rfl
  obtain @⟨gap, middle, gap', hgap, hmiddle, hgap'⟩ := hpadding
  rw [skipPadding, List.append_assoc, List.append_assoc, skipBlanks_append hgap]
  rcases hmiddle with rfl | rfl
  · rw [List.nil_append, skipBlanks_append hgap', hself, skipOne_eq_self hstop, hself]
  · have hsigned : skipBlanks (sign :: (gap' ++ rest)) = sign :: (gap' ++ rest) :=
      skipBlanks_eq_self (by simpa using hsign)
    rw [List.singleton_append, hsigned, skipOne_cons_self, skipBlanks_append hgap', hself]

theorem exists_isPadding (sign : Char) (cs : List Char) :
    ∃ padding, IsPadding sign padding ∧ cs = padding ++ skipPadding sign cs := by
  obtain ⟨gap, hgap, hcs⟩ := exists_isGap cs
  obtain ⟨middle, hmiddle, hskip⟩ := exists_isOptional sign (skipBlanks cs)
  obtain ⟨gap', hgap', hskip'⟩ := exists_isGap (skipOne sign (skipBlanks cs))
  refine ⟨gap ++ middle ++ gap', .mk hgap hmiddle hgap', ?_⟩
  rw [skipPadding, List.append_assoc, List.append_assoc, ← hskip', ← hskip, ← hcs]

end

/-! ## The name -/

theorem IsColumnName.isNamePart_of_mem {column : List Char} (h : IsColumnName column) :
    ∀ c ∈ column, isNamePart c = true :=
  fun c hc => isNamePart_iff.mpr (h.chars c hc)

theorem isColumnName_iff {column : List Char} :
    IsColumnName column ↔
      (∃ c ∈ column.head?, isNameStart c = true) ∧ ∀ c ∈ column, isNamePart c = true := by
  simp only [isNameStart_iff, isNamePart_iff]
  exact ⟨fun h => ⟨h.head, h.chars⟩, fun h => ⟨h.1, h.2⟩⟩

theorem IsColumnName.ne_nil {column : List Char} (h : IsColumnName column) : column ≠ [] := by
  rintro rfl
  obtain ⟨c, hc, -⟩ := h.head
  cases hc

theorem IsColumnName.head?_append {column : List Char} (h : IsColumnName column)
    (rest : List Char) : ∀ c ∈ (column ++ rest).head?, isNamePart c = true := by
  obtain ⟨d, column, rfl⟩ := List.exists_cons_of_ne_nil h.ne_nil
  rintro c ⟨⟩
  exact h.isNamePart_of_mem d List.mem_cons_self

/-- A name is read up to where the text goes on with something else. -/
theorem takeName_append {column rest : List Char} (h : ∀ c ∈ column, isNamePart c = true)
    (hrest : ∀ c ∈ rest.head?, isNamePart c = false) :
    (column ++ rest).takeWhile isNamePart = column ∧
      (column ++ rest).dropWhile isNamePart = rest := by
  rw [List.takeWhile_append_of_pos h, List.dropWhile_append_of_pos h]
  cases rest with
  | nil => exact ⟨List.append_nil column, rfl⟩
  | cons c rest =>
    have hc : ¬isNamePart c = true := by simp [hrest c rfl]
    rw [List.takeWhile_cons_of_neg hc, List.dropWhile_cons_of_neg hc]
    exact ⟨List.append_nil column, rfl⟩

/-! ## The words -/

/-- A word of lower-case letters. -/
def IsKeyword (word : String) : Prop :=
  word.toList ≠ [] ∧ word.toList.all Char.isLower = true

/-- The letters of a word might stand in a name. -/
theorem isNamePart_of_letters {word : String} (hword : IsKeyword word) {letters : List Char}
    (h : letters.map foldLetter = word.toList) : ∀ c ∈ letters, isNamePart c = true := by
  intro c hc
  have hlower : (foldLetter c).isLower = true :=
    List.all_eq_true.mp hword.2 _ (h ▸ List.mem_map_of_mem hc)
  simp [isNamePart, isNameStart, hlower]

theorem head?_letters {word : String} (hword : IsKeyword word) {letters : List Char}
    (h : letters.map foldLetter = word.toList) (rest : List Char) :
    ∀ c ∈ (letters ++ rest).head?, isBlank c = false := by
  cases letters with
  | nil => exact absurd h.symm hword.1
  | cons d letters =>
    rintro c ⟨⟩
    exact isBlank_of_isNamePart (isNamePart_of_letters hword h d List.mem_cons_self)

theorem afterWord?_eq_some_iff {word : String} (hword : IsKeyword word) {cs rest : List Char} :
    afterWord? word cs = some rest ↔
      ∃ gap letters, IsGap gap ∧ gap ≠ [] ∧ letters.map foldLetter = word.toList ∧
        cs = gap ++ letters ++ rest := by
  constructor
  · intro h
    obtain ⟨hhead, h⟩ := Option.ite_none_right_eq_some.mp h
    obtain ⟨letters, hskip, hletters⟩ := startsWithFolded?_eq_some_iff.mp h
    obtain ⟨gap, hgap, hcs⟩ := exists_isGap cs
    rw [hskip] at hcs
    refine ⟨gap, letters, hgap, ?_, hletters, by rw [hcs, List.append_assoc]⟩
    -- The text begins with a blank, and the word does not.
    rintro rfl
    obtain ⟨c, hc, hblank⟩ := (Option.any_eq_true _ _).mp hhead
    rw [hcs, List.nil_append] at hc
    exact absurd hblank (by simp [head?_letters hword hletters rest c hc])
  · rintro ⟨gap, letters, hgap, hne, hletters, rfl⟩
    obtain ⟨d, gap, rfl⟩ := List.exists_cons_of_ne_nil hne
    have hd : isBlank d = true := hgap d List.mem_cons_self
    rw [afterWord?, if_pos (by simpa using hd), List.append_assoc, skipBlanks_append hgap,
      skipBlanks_eq_self (head?_letters hword hletters rest)]
    exact startsWithFolded?_eq_some_iff.mpr ⟨letters, rfl, hletters⟩

/-- What follows several words, each with blanks before it. -/
def afterWords? (words : List String) (cs : List Char) : Option (List Char) :=
  words.foldlM (fun cs word => afterWord? word cs) cs

theorem afterWords?_cons_eq_some_iff {word : String} {words : List String} {cs rest : List Char} :
    afterWords? (word :: words) cs = some rest ↔
      ∃ next, afterWord? word cs = some next ∧ afterWords? words next = some rest :=
  Option.bind_eq_some_iff

theorem afterWords?_eq_some_iff {words : List String} (h : ∀ word ∈ words, IsKeyword word)
    {cs rest : List Char} :
    afterWords? words cs = some rest ↔ ∃ phrase, IsPhrase words phrase ∧ cs = phrase ++ rest := by
  induction words generalizing cs with
  | nil =>
    constructor
    · rintro ⟨⟩
      exact ⟨[], .nil, rfl⟩
    · rintro ⟨phrase, ⟨⟩, rfl⟩
      rfl
  | cons word words ih =>
    obtain ⟨hword, hwords⟩ := List.forall_mem_cons.mp h
    rw [afterWords?_cons_eq_some_iff]
    constructor
    · rintro ⟨next, hnext, hrest⟩
      obtain ⟨gap, letters, hgap, hne, hletters, rfl⟩ := (afterWord?_eq_some_iff hword).mp hnext
      obtain ⟨phrase, hphrase, rfl⟩ := (ih hwords).mp hrest
      exact ⟨gap ++ letters ++ phrase, .cons hgap hne hletters hphrase, by simp⟩
    · rintro ⟨phrase, hphrase, rfl⟩
      cases hphrase with
      | @cons gap letters phrase _ _ hgap hne hletters hphrase =>
        refine ⟨phrase ++ rest, ?_, (ih hwords).mpr ⟨phrase, hphrase, rfl⟩⟩
        exact (afterWord?_eq_some_iff hword).mpr
          ⟨gap, letters, hgap, hne, hletters, List.append_assoc _ _ _⟩

/-- A text begins with the blank before its first word, or as it goes on if there is no word. -/
theorem IsPhrase.head?_append {p : Char → Prop} {words : List String} {phrase rest : List Char}
    (h : IsPhrase words phrase) (hblank : ∀ c, isBlank c = true → p c)
    (hrest : words = [] → ∀ c ∈ rest.head?, p c) : ∀ c ∈ (phrase ++ rest).head?, p c := by
  cases h with
  | nil => exact hrest rfl
  | @cons gap letters phrase _ _ hgap hne =>
    obtain ⟨d, gap, rfl⟩ := List.exists_cons_of_ne_nil hne
    rintro c ⟨⟩
    exact hblank d (hgap d List.mem_cons_self)

/-! ## The whole expression -/

/-- The words that follow the name. -/
def notNullWords : List String := ["is", "not", "null"]

theorem isKeyword_of_mem : ∀ word ∈ notNullWords, IsKeyword word := by
  simp only [notNullWords, IsKeyword]
  decide

/-- The name ends where a quote or the blank before the first word follows it. -/
theorem head?_afterName {quote phrase : List Char} (hquote : IsOptional '\x22' quote)
    (hphrase : IsPhrase notNullWords phrase) (rest : List Char) :
    ∀ c ∈ (quote ++ (phrase ++ rest)).head?, isNamePart c = false :=
  hquote.head?_append (by decide) (hphrase.head?_append (fun _ => isNamePart_of_isBlank) nofun)

/-- What follows the opening of an expression. -/
def afterOpening (cs : List Char) : List Char :=
  skipOne '\x22' (skipPadding '(' cs)

theorem notNullColumn?_eq (expression : String) :
    notNullColumn? expression =
      ((afterOpening expression.toList).takeWhile isNamePart).head?.bind fun first =>
        if isNameStart first then
          (afterWords? notNullWords (skipOne '\x22'
              ((afterOpening expression.toList).dropWhile isNamePart))).bind fun rest =>
            if (skipPadding ')' rest).isEmpty then
              some (String.ofList ((afterOpening expression.toList).takeWhile isNamePart))
            else none
        else none := by
  simp only [notNullColumn?, afterOpening, skipPadding, afterWords?, notNullWords, List.foldlM_cons,
    List.foldlM_nil, Option.bind_eq_bind, Option.bind_assoc]
  rfl

/-- What is read of an expression, part by part. -/
theorem notNullColumn?_eq_some_iff_parts {expression column : String} :
    notNullColumn? expression = some column ↔
      (afterOpening expression.toList).takeWhile isNamePart = column.toList ∧
      (∃ c ∈ column.toList.head?, isNameStart c = true) ∧
      ∃ rest, afterWords? notNullWords
          (skipOne '\x22' ((afterOpening expression.toList).dropWhile isNamePart)) = some rest ∧
        skipPadding ')' rest = [] := by
  rw [notNullColumn?_eq, Option.bind_eq_some_iff]
  simp only [Option.ite_none_right_eq_some, Option.bind_eq_some_iff, List.isEmpty_iff,
    Option.some.injEq]
  constructor
  · rintro ⟨first, hfirst, hstart, rest, hrest, hclosing, rfl⟩
    rw [String.toList_ofList]
    exact ⟨rfl, ⟨first, hfirst, hstart⟩, rest, hrest, hclosing⟩
  · rintro ⟨hname, ⟨first, hfirst, hstart⟩, rest, hrest, hclosing⟩
    rw [hname, String.ofList_toList]
    exact ⟨first, hfirst, hstart, rest, hrest, hclosing, rfl⟩

theorem forbidsNull_of_notNullColumn? {expression column : String}
    (h : notNullColumn? expression = some column) :
    ForbidsNull column.toList expression.toList := by
  obtain ⟨hname, hstart, rest, hwords, hend⟩ := notNullColumn?_eq_some_iff_parts.mp h
  obtain ⟨opening, hopening, hopened⟩ := exists_isPadding '(' expression.toList
  obtain ⟨quote, hquote, hquoted⟩ := exists_isOptional '\x22' (skipPadding '(' expression.toList)
  obtain ⟨quote', hquote', hquoted'⟩ :=
    exists_isOptional '\x22' ((afterOpening expression.toList).dropWhile isNamePart)
  obtain ⟨phrase, hphrase, hrest⟩ := (afterWords?_eq_some_iff isKeyword_of_mem).mp hwords
  obtain ⟨closing, hclosing, hclosed⟩ := exists_isPadding ')' rest
  have hcolumn : IsColumnName column.toList :=
    isColumnName_iff.mpr ⟨hstart, fun c hc => List.mem_takeWhile_imp (hname ▸ hc)⟩
  have hbody : afterOpening expression.toList = column.toList ++ (quote' ++ (phrase ++ closing)) :=
    calc afterOpening expression.toList
        = column.toList ++ (afterOpening expression.toList).dropWhile isNamePart := by
          rw [← hname, List.takeWhile_append_dropWhile]
      _ = column.toList ++ (quote' ++ (phrase ++ closing)) := by
          rw [hquoted', hrest, hclosed, hend, List.append_nil]
  have htext : expression.toList =
      opening ++ quote ++ column.toList ++ quote' ++ phrase ++ closing :=
    calc expression.toList
        = opening ++ (quote ++ afterOpening expression.toList) := by
          rw [afterOpening, ← hquoted, ← hopened]
      _ = opening ++ quote ++ column.toList ++ quote' ++ phrase ++ closing := by
          simp only [hbody, List.append_assoc]
  rw [htext]
  exact .mk hopening hquote hcolumn hquote' hphrase hclosing

theorem notNullColumn?_of_forbidsNull {expression column : String}
    (h : ForbidsNull column.toList expression.toList) :
    notNullColumn? expression = some column := by
  rw [notNullColumn?_eq_some_iff_parts]
  generalize expression.toList = cs at h
  cases h with
  | @mk opening quote quote' phrase closing hopening hquote hcolumn hquote' hphrase hclosing =>
    have hname := hcolumn.head?_append (quote' ++ (phrase ++ closing))
    have hphraseHead : ∀ c ∈ (phrase ++ closing).head?, isBlank c = true :=
      hphrase.head?_append (fun _ => id) nofun
    have hquoted : ∀ c ∈ (quote ++ (column.toList ++ (quote' ++ (phrase ++ closing)))).head?,
        isBlank c = false ∧ c ≠ '(' := by
      refine hquote.head?_append (by decide) fun c hc => ⟨isBlank_of_isNamePart (hname c hc), ?_⟩
      rintro rfl
      exact absurd (hname _ hc) (by decide)
    have hunquoted : (column.toList ++ (quote' ++ (phrase ++ closing))).head? ≠ some '\x22' :=
      fun hc => absurd (hname _ hc) (by decide)
    have hbody : afterOpening (opening ++ quote ++ column.toList ++ quote' ++ phrase ++ closing) =
        column.toList ++ (quote' ++ (phrase ++ closing)) := by
      simp only [afterOpening, List.append_assoc]
      rw [skipPadding_append (by decide) hopening hquoted, skipOne_append hquote hunquoted]
    have hphraseStart : (phrase ++ closing).head? ≠ some '\x22' :=
      fun hc => absurd (hphraseHead _ hc) (by decide)
    obtain ⟨htake, hdrop⟩ :=
      takeName_append hcolumn.isNamePart_of_mem (head?_afterName hquote' hphrase closing)
    rw [hbody, htake, hdrop, skipOne_append hquote' hphraseStart]
    refine ⟨rfl, (isColumnName_iff.mp hcolumn).1, closing, ?_, ?_⟩
    · exact (afterWords?_eq_some_iff isKeyword_of_mem).mpr ⟨phrase, hphrase, rfl⟩
    · have hend : skipPadding ')' (closing ++ []) = [] :=
        skipPadding_append (by decide) hclosing nofun
      rwa [List.append_nil] at hend

/-- An expression is taken for a check of a column against null exactly if it is written as one. -/
theorem notNullColumn?_eq_some_iff {expression column : String} :
    notNullColumn? expression = some column ↔ ForbidsNull column.toList expression.toList :=
  ⟨forbidsNull_of_notNullColumn?, notNullColumn?_of_forbidsNull⟩

/-! ## All that stands in an expression -/

/-- The names and words of a text: its longest runs of characters that may stand in a name. -/
def namesIn (cs : List Char) : List (List Char) :=
  words (cs.map fun c => if isNamePart c then c else ' ')

/-- The signs of a text: the characters that are neither blank nor part of a name. -/
def signsIn (cs : List Char) : List Char :=
  cs.filter fun c => !isNamePart c && !isBlank c

section
variable {part rest : List Char}

theorem namesIn_append_of_not (h : ∀ c ∈ part, isNamePart c = false) :
    namesIn (part ++ rest) = namesIn rest := by
  rw [namesIn, List.map_append]
  refine words_gap_append (fun c hc => ?_) _
  obtain ⟨d, hd, rfl⟩ := List.mem_map.mp hc
  rw [h d hd]
  exact isBlank_space

theorem namesIn_append_of_name (hne : part ≠ []) (h : ∀ c ∈ part, isNamePart c = true)
    (hrest : ∀ c ∈ rest.head?, isNamePart c = false) :
    namesIn (part ++ rest) = part :: namesIn rest := by
  have hsame : part.map (fun c => if isNamePart c then c else ' ') = part :=
    (List.map_congr_left fun c hc => if_pos (h c hc)).trans (List.map_id part)
  have hword : words part = [part] :=
    words_of_isWord ⟨hne, fun c hc => isBlank_of_isNamePart (h c hc)⟩
  rw [namesIn, List.map_append, hsame]
  cases rest with
  | nil => rw [List.map_nil, List.append_nil, hword, namesIn, List.map_nil]; rfl
  | cons d rest =>
    have hd : (if isNamePart d then d else ' ') = ' ' := if_neg (by simp [hrest d rfl])
    rw [List.map_cons, hd, words_append_blank isBlank_space, hword, namesIn, List.map_cons, hd,
      words_cons_blank isBlank_space, List.singleton_append]

theorem IsOptional.not_isNamePart {sign : Char} (h : IsOptional sign part)
    (hsign : isNamePart sign = false) : ∀ c ∈ part, isNamePart c = false := by
  rcases h with rfl | rfl
  · simp
  · simpa using hsign

theorem IsPadding.not_isNamePart {sign : Char} (h : IsPadding sign part)
    (hsign : isNamePart sign = false) : ∀ c ∈ part, isNamePart c = false := by
  cases h with
  | mk hgap hmiddle hgap' =>
    intro c hc
    rw [List.mem_append, List.mem_append] at hc
    rcases hc with (hc | hc) | hc
    · exact isNamePart_of_isBlank (hgap c hc)
    · exact hmiddle.not_isNamePart hsign c hc
    · exact isNamePart_of_isBlank (hgap' c hc)

/-- The names in several words are the words. -/
theorem IsPhrase.namesIn_append {words : List String} (h : IsPhrase words part)
    (hwords : ∀ word ∈ words, IsKeyword word) (hrest : ∀ c ∈ rest.head?, isNamePart c = false) :
    ∃ names, namesIn (part ++ rest) = names ++ namesIn rest ∧
      names.map (List.map foldLetter) = words.map String.toList := by
  induction h with
  | nil => exact ⟨[], rfl, rfl⟩
  | @cons gap letters phrase word words hgap hne hletters hphrase ih =>
    obtain ⟨hword, hwords⟩ := List.forall_mem_cons.mp hwords
    obtain ⟨names, hnames, hfolded⟩ := ih hwords
    have hend : ∀ c ∈ (phrase ++ rest).head?, isNamePart c = false :=
      hphrase.head?_append (fun _ => isNamePart_of_isBlank) fun _ => hrest
    have hlettersNe : letters ≠ [] := by
      rintro rfl
      exact hword.1 hletters.symm
    refine ⟨letters :: names, ?_, ?_⟩
    · rw [List.append_assoc, List.append_assoc,
        namesIn_append_of_not fun c hc => isNamePart_of_isBlank (hgap c hc),
        namesIn_append_of_name hlettersNe (isNamePart_of_letters hword hletters) hend, hnames,
        List.cons_append]
    · rw [List.map_cons, List.map_cons, hletters, hfolded]

theorem signsIn_append : signsIn (part ++ rest) = signsIn part ++ signsIn rest :=
  List.filter_append part rest

theorem signsIn_gap (h : IsGap part) : signsIn part = [] :=
  List.filter_eq_nil_iff.mpr fun c hc => by simp [h c hc]

theorem signsIn_name (h : ∀ c ∈ part, isNamePart c = true) : signsIn part = [] :=
  List.filter_eq_nil_iff.mpr fun c hc => by simp [h c hc]

theorem IsOptional.signsIn_sublist {sign : Char} (h : IsOptional sign part) :
    (signsIn part).Sublist [sign] := by
  rcases h with rfl | rfl
  · exact List.nil_sublist _
  · exact List.filter_sublist

theorem IsPadding.signsIn_sublist {sign : Char} (h : IsPadding sign part) :
    (signsIn part).Sublist [sign] := by
  cases h with
  | mk hgap hmiddle hgap' =>
    rw [signsIn_append, signsIn_append, signsIn_gap hgap, signsIn_gap hgap', List.nil_append,
      List.append_nil]
    exact hmiddle.signsIn_sublist

theorem IsPhrase.signsIn_eq {words : List String} (h : IsPhrase words part)
    (hwords : ∀ word ∈ words, IsKeyword word) : signsIn part = [] := by
  induction h with
  | nil => rfl
  | @cons gap letters phrase word words hgap hne hletters hphrase ih =>
    obtain ⟨hword, hwords⟩ := List.forall_mem_cons.mp hwords
    rw [signsIn_append, signsIn_append, signsIn_gap hgap,
      signsIn_name (isNamePart_of_letters hword hletters), ih hwords]
    rfl

end

/-- The names and words of a check against null are the column, `IS`, `NOT` and `NULL`. -/
theorem ForbidsNull.names {column expression : List Char} (h : ForbidsNull column expression) :
    ∃ names, namesIn expression = column :: names ∧
      names.map (List.map foldLetter) = notNullWords.map String.toList := by
  cases h with
  | @mk opening quote quote' phrase closing hopening hquote hcolumn hquote' hphrase hclosing =>
    have hopened : ∀ c ∈ opening, isNamePart c = false := hopening.not_isNamePart (by decide)
    have hclosed : ∀ c ∈ closing, isNamePart c = false := hclosing.not_isNamePart (by decide)
    have hend : ∀ c ∈ closing.head?, isNamePart c = false :=
      fun c hc => hclosed c (List.mem_of_mem_head? hc)
    have hnone : namesIn closing = [] := by
      rw [← List.append_nil closing, namesIn_append_of_not hclosed]
      rfl
    obtain ⟨names, hnames, hfolded⟩ := hphrase.namesIn_append isKeyword_of_mem hend
    refine ⟨names, ?_, hfolded⟩
    simp only [List.append_assoc]
    rw [namesIn_append_of_not hopened, namesIn_append_of_not (hquote.not_isNamePart (by decide)),
      namesIn_append_of_name hcolumn.ne_nil hcolumn.isNamePart_of_mem
        (head?_afterName hquote' hphrase closing),
      namesIn_append_of_not (hquote'.not_isNamePart (by decide)), hnames, hnone, List.append_nil]

/-- The signs of a check against null are the parentheses and quotes, each in its place. -/
theorem ForbidsNull.signs {column expression : List Char} (h : ForbidsNull column expression) :
    (signsIn expression).Sublist ['(', '\x22', '\x22', ')'] := by
  cases h with
  | @mk opening quote quote' phrase closing hopening hquote hcolumn hquote' hphrase hclosing =>
    simp only [signsIn_append, signsIn_name hcolumn.isNamePart_of_mem,
      hphrase.signsIn_eq isKeyword_of_mem, List.append_nil]
    exact ((hopening.signsIn_sublist.append hquote.signsIn_sublist).append
      hquote'.signsIn_sublist).append hclosing.signsIn_sublist

/-- The expression of a check constraint is taken for a check of a column against null exactly if it
is written as one: the name of the column, in double quotes or not, and the words `IS`, `NOT` and
`NULL` in any case, each after blanks, with an opening and a closing parenthesis or without, and
with blanks around them. Any other expression is read as well, and is a check of no column. One
column fits at most, and besides its name, the three words and those signs nothing stands in the
expression. -/
theorem notNullColumnOf_iff_forbidsNull (expression : String) :
    (∀ column : String, notNullColumnOf (.text expression) = .ok (some column) ↔
      ForbidsNull column.toList expression.toList) ∧
    (notNullColumnOf (.text expression) = .ok none ↔
      ∀ column : String, ¬ForbidsNull column.toList expression.toList) ∧
    (∀ column column' : String, ForbidsNull column.toList expression.toList →
      ForbidsNull column'.toList expression.toList → column = column') ∧
    ∀ column : String, ForbidsNull column.toList expression.toList →
      (∃ names, namesIn expression.toList = column.toList :: names ∧
        names.map (List.map foldLetter) = ["is".toList, "not".toList, "null".toList]) ∧
      (signsIn expression.toList).Sublist ['(', '\x22', '\x22', ')'] := by
  have hsome (column : String) : notNullColumnOf (.text expression) = .ok (some column) ↔
      ForbidsNull column.toList expression.toList := by
    rw [notNullColumnOf, Except.ok.injEq, notNullColumn?_eq_some_iff]
  refine ⟨hsome, ?_, fun column column' h h' => ?_, fun column h => ⟨h.names, h.signs⟩⟩
  · rw [notNullColumnOf, Except.ok.injEq, Option.eq_none_iff_forall_ne_some]
    exact forall_congr' fun column => not_congr notNullColumn?_eq_some_iff
  · have heq := ((hsome column).mpr h).symm.trans ((hsome column').mpr h')
    exact Option.some.inj (Except.ok.inj heq)

/-- A check in mixed case, with a letter outside ASCII, blanks of several kinds and all of the
signs; and a condition that allows null. -/
theorem notNullColumnOf_iff_forbidsNull_mixedCase :
    notNullColumnOf (.text " ( \x22ema\u0131l_2\x22\u00A0Is NOT\tnull ) ") =
      .ok (some "ema\u0131l_2") ∧
    (∃ names, namesIn " ( \x22ema\u0131l_2\x22\u00A0Is NOT\tnull ) ".toList =
        "ema\u0131l_2".toList :: names ∧
      names.map (List.map foldLetter) = ["is".toList, "not".toList, "null".toList]) ∧
    ∀ column : String, ¬ForbidsNull column.toList "email IS NOT NULL OR age > 0".toList := by
  have hread : notNullColumnOf (.text " ( \x22ema\u0131l_2\x22\u00A0Is NOT\tnull ) ") =
      .ok (some "ema\u0131l_2") := by rfl
  have hnone : notNullColumnOf (.text "email IS NOT NULL OR age > 0") = .ok none := by rfl
  obtain ⟨hsome, -, -, hnames⟩ :=
    notNullColumnOf_iff_forbidsNull " ( \x22ema\u0131l_2\x22\u00A0Is NOT\tnull ) "
  exact ⟨hread, (hnames _ ((hsome _).mp hread)).1,
    (notNullColumnOf_iff_forbidsNull "email IS NOT NULL OR age > 0").2.1.mp hnone⟩

end MigrationSafety.Operation
