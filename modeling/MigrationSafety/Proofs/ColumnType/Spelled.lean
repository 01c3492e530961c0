import MigrationSafety.Proofs.ColumnType.Readable

/-!
# Spellings of column types

A type is spelled by its parts, one after another: the words of a name, numbers with parentheses and
commas, and the words of a time zone clause. Letters may be capital ones, and gaps of any blanks may
stand around the parts; between words, and before a clause, some gap must. All spellings are read
alike, also where the clause stands before the numbers.

* `Part`, `Spelled`: parts of a type, and a text in which they follow one another;
* `IsSpelling`: a text that spells parts, up to the case of its letters;
* `Spelled.joinWords_words`: in its normal form, a text spells the same parts;
* `spellings_read_alike`: what is read of the spellings of a type.
-/

namespace MigrationSafety.ColumnType

open Text

/-- A part of a written type, in lower case, and whether a gap must stand before it. -/
structure Part where
  text : List Char
  apart : Bool
  deriving DecidableEq

/-- A text in which parts follow one another, with gaps before them. -/
inductive Spelled : List Part → (text : List Char) → Prop
  | nil : Spelled [] []
  | cons {part : Part} {parts : List Part} {gap rest : List Char} (hgap : IsGap gap)
      (hapart : part.apart = true → gap ≠ []) (hrest : Spelled parts rest) :
      Spelled (part :: parts) (gap ++ part.text ++ rest)

/-- A text that spells parts, up to the case of its ASCII letters and a gap at its end. -/
def IsSpelling (parts : List Part) (spec : String) : Prop :=
  ∃ text gap, Spelled parts text ∧ IsGap gap ∧ spec.toList.map Char.toLower = text ++ gap

/-- The words of a name. -/
def nameParts : List (List Char) → List Part
  | [] => []
  | w :: ws => ⟨w, false⟩ :: ws.map (⟨·, true⟩)

/-- Numbers in parentheses, with commas between them. -/
def numberParts (ms : List Nat) : List Part :=
  ⟨['('], false⟩ ::
    (((ms.map (Nat.toDigits 10)).intersperse [',']).map (⟨·, false⟩) ++ [⟨[')'], false⟩])

/-- The words of a time zone clause. -/
def zoneParts (zone : List Char) : List Part :=
  (words zone).map (⟨·, true⟩)

/-- A word of a name: letters, digits and underscores. -/
structure IsNameWord (w : List Char) : Prop where
  ne_nil : w ≠ []
  chars : ∀ c ∈ w, Spelling.isNameChar c = true ∧ c ≠ ' '

instance (w : List Char) : Decidable (IsNameWord w) :=
  decidable_of_iff (w ≠ [] ∧ (w.all fun c => Spelling.isNameChar c && c != ' ') = true)
    ⟨fun h => ⟨h.1, by simpa using h.2⟩, fun h => ⟨h.ne_nil, by simpa using h.chars⟩⟩

/-- The words of the name of a type; the first one begins with a letter. -/
structure IsNameWords (ws : List (List Char)) : Prop where
  each : ∀ w ∈ ws, IsNameWord w
  head : ((ws.head?.bind List.head?).any fun c => 'a' ≤ c && c ≤ 'z') = true

namespace Spelled

variable {parts parts' : List Part} {cs : List Char}

theorem of_append (h : Spelled (parts ++ parts') cs) :
    ∃ text text', cs = text ++ text' ∧ Spelled parts text ∧ Spelled parts' text' := by
  induction parts generalizing cs with
  | nil => exact ⟨[], cs, rfl, .nil, h⟩
  | cons part parts ih =>
    cases h with
    | cons hgap hapart hrest =>
      obtain ⟨text, text', rfl, htext, htext'⟩ := ih hrest
      exact ⟨_, text', (List.append_assoc ..).symm, .cons hgap hapart htext, htext'⟩

theorem append {text text' : List Char} (h : Spelled parts text) (h' : Spelled parts' text') :
    Spelled (parts ++ parts') (text ++ text') := by
  induction h with
  | nil => exact h'
  | cons hgap hapart _ ih =>
    rw [List.append_assoc]
    exact .cons hgap hapart ih

/-- A character stands in a gap or in a part. -/
theorem isBlank_or_mem (h : Spelled parts cs) {c : Char} (hc : c ∈ cs) :
    isBlank c = true ∨ ∃ part ∈ parts, c ∈ part.text := by
  induction h with
  | nil => cases hc
  | @cons part parts gap rest hgap _ _ ih =>
    rw [List.mem_append, List.mem_append] at hc
    rcases hc with (hc | hc) | hc
    · exact .inl (hgap c hc)
    · exact .inr ⟨part, .head _, hc⟩
    · exact (ih hc).imp_right fun ⟨part, hpart, hc⟩ => ⟨part, .tail _ hpart, hc⟩

/-- Without its gaps, a text consists of its parts. -/
theorem filter_eq (h : Spelled parts cs) (hcs : ∀ c ∈ cs, isBlank c = true → c = ' ')
    (hparts : ∀ part ∈ parts, ∀ c ∈ part.text, c ≠ ' ') :
    cs.filter (· != ' ') = (parts.map Part.text).flatten := by
  induction h with
  | nil => rfl
  | @cons part parts gap rest hgap _ _ ih =>
    obtain ⟨hpart, hparts⟩ := List.forall_mem_cons.mp hparts
    have hnone : gap.filter (· != ' ') = [] := filter_eq_nil_of_spaces fun c hc =>
      hcs c (by simp [hc]) (hgap c hc)
    have hall : part.text.filter (· != ' ') = part.text :=
      List.filter_eq_self.mpr fun c hc => bne_iff_ne.mpr (hpart c hc)
    rw [List.filter_append, List.filter_append, hnone, hall, List.nil_append,
      ih (fun c hc => hcs c (List.mem_append_right _ hc)) hparts, List.map_cons, List.flatten_cons]

/-! ## Normal form -/

/-- When its words are joined, gaps become single spaces or stay away, and parts stay. -/
theorem exists_joinWords_wordsFrom (h : Spelled parts cs)
    (hparts : ∀ part ∈ parts, IsWord part.text) {word : List Char} (hne : word ≠ []) :
    ∃ text, joinWords (wordsFrom word cs) = word.reverse ++ text ∧ Spelled parts text := by
  induction h generalizing word with
  | nil => exact ⟨[], by rw [wordsFrom_nil hne, joinWords_singleton, List.append_nil], .nil⟩
  | @cons part parts gap rest hgap hapart _ ih =>
    obtain ⟨hpart, hparts⟩ := List.forall_mem_cons.mp hparts
    have hread : part.text.reverse ≠ [] := by simpa using hpart.ne_nil
    cases gap with
    | nil =>
      obtain ⟨text, htext, hspelled⟩ :=
        ih hparts (List.append_ne_nil_of_left_ne_nil hread word)
      refine ⟨[] ++ part.text ++ text, ?_, .cons hgap hapart hspelled⟩
      rw [List.nil_append, wordsFrom_solid_append hpart.solid, htext]
      simp
    | cons d gap =>
      obtain ⟨hd, hgap⟩ := List.forall_mem_cons.mp hgap
      obtain ⟨text, htext, hspelled⟩ := ih hparts hread
      have hwords := words_gap_solid_append hgap hpart.solid rest
      have hleft : wordsFrom part.text.reverse rest ≠ [] := fun hnil => by
        rw [hnil, joinWords_nil, List.reverse_reverse] at htext
        exact hpart.ne_nil (List.append_eq_nil_iff.mp htext.symm).1
      refine ⟨[' '] ++ part.text ++ text, ?_,
        .cons (by simp [IsGap, isBlank_space]) (fun _ => by simp) hspelled⟩
      rw [List.cons_append, List.cons_append, wordsFrom_cons_blank hd, hwords, wordsFrom_nil hne,
        List.singleton_append, joinWords_cons hleft, htext]
      simp

/-- With its words joined, a text spells the same parts. -/
theorem joinWords_words {w : List Char} (h : Spelled (⟨w, false⟩ :: parts) cs) (hw : IsWord w)
    (hparts : ∀ part ∈ parts, IsWord part.text) :
    Spelled (⟨w, false⟩ :: parts) (joinWords (words cs)) := by
  cases h with
  | @cons _ _ gap rest hgap _ hrest =>
    have hread : w.reverse ≠ [] := by simpa using hw.ne_nil
    obtain ⟨text, htext, hspelled⟩ := hrest.exists_joinWords_wordsFrom hparts hread
    rw [words_gap_solid_append hgap hw.solid, htext, List.reverse_reverse]
    have hnil : IsGap [] := List.forall_mem_nil _
    exact .cons hnil (fun h => absurd h Bool.false_ne_true) hspelled

end Spelled

/-- Whether a part is a word of ASCII characters. -/
def Part.IsPlain (part : Part) : Prop :=
  IsWord part.text ∧ ∀ c ∈ part.text, c.toNat < 0x80

/-! ## Parts of a type -/

/-- The characters of names, but for spaces, and those between numbers make plain parts. -/
theorem isPlain_of_chars {part : Part} (hne : part.text ≠ [])
    (hchars : ∀ c ∈ part.text, (Spelling.isNameChar c = true ∧ c ≠ ' ') ∨ c ∈ ['(', ')', ',']) :
    part.IsPlain := by
  have hplain : ∀ c ∈ part.text, isBlank c = false ∧ c.toNat < 0x80 := by
    intro c hc
    rcases hchars c hc with ⟨hname, hspace⟩ | hmem
    · have hblank := (isLowered_of_isNameChar hname).2
      exact ⟨Bool.eq_false_iff.mpr fun h => hspace (hblank h), toNat_lt_of_isNameChar hname⟩
    · have hthree : ['(', ')', ','].all (fun d => !isBlank d && d.toNat < 0x80) = true := by
        decide
      simpa using List.all_eq_true.mp hthree c hmem
  exact ⟨⟨hne, fun c hc => (hplain c hc).1⟩, fun c hc => (hplain c hc).2⟩

theorem IsNameWord.isPlain {w : List Char} (h : IsNameWord w) (apart : Bool) :
    Part.IsPlain ⟨w, apart⟩ :=
  isPlain_of_chars h.ne_nil fun c hc => .inl (h.chars c hc)

theorem IsNameWord.isWord {w : List Char} (h : IsNameWord w) : IsWord w :=
  (h.isPlain false).1

theorem isNameWord_zone : ∀ zone ∈ Spelling.zoneClauses, ∀ w ∈ words zone, IsNameWord w := by
  decide

theorem isPlain_nameParts {ws : List (List Char)} (h : IsNameWords ws) :
    ∀ part ∈ nameParts ws, part.IsPlain := by
  intro part hpart
  cases ws with
  | nil => cases hpart
  | cons w ws =>
    obtain ⟨hw, hws⟩ := List.forall_mem_cons.mp h.each
    rcases List.mem_cons.mp hpart with rfl | hpart
    · exact hw.isPlain false
    · obtain ⟨w', hw', rfl⟩ := List.mem_map.mp hpart
      exact (hws w' hw').isPlain true

theorem isPlain_numberParts (ms : List Nat) : ∀ part ∈ numberParts ms, part.IsPlain := by
  intro part hpart
  rw [numberParts, List.mem_cons, List.mem_append, List.mem_singleton] at hpart
  rcases hpart with rfl | hpart | rfl
  · exact isPlain_of_chars (by simp) (by simp)
  · obtain ⟨text, htext, rfl⟩ := List.mem_map.mp hpart
    refine isPlain_of_chars ?_ fun c hc => ?_
    · rcases mem_intersperse htext with rfl | htext
      · simp
      · obtain ⟨m, -, rfl⟩ := List.mem_map.mp htext
        exact Nat.toDigits_ne_nil
    · have hnumber := isNumbersChar_intercalate (List.mem_flatten_of_mem htext hc)
      rcases isNameChar_of_isNumbersChar hnumber.1 with hname | rfl
      · exact .inl ⟨hname, hnumber.2⟩
      · exact .inr (by simp)
  · exact isPlain_of_chars (by simp) (by simp)

theorem isPlain_zoneParts {zone : List Char} (hzone : zone ∈ Spelling.zoneClauses) :
    ∀ part ∈ zoneParts zone, part.IsPlain := by
  intro part hpart
  obtain ⟨w, hw, rfl⟩ := List.mem_map.mp hpart
  exact (isNameWord_zone zone hzone w hw).isPlain true

/-- The normal form of a spelling spells the same parts. -/
theorem IsSpelling.spelled_normalize {ws : List (List Char)} {parts : List Part} {spec : String}
    (h : IsSpelling (nameParts ws ++ parts) spec) (hws : IsNameWords ws)
    (hparts : ∀ part ∈ parts, part.IsPlain) : Spelled (nameParts ws ++ parts) (normalize spec) := by
  obtain ⟨text, gap, htext, hgap, hlower⟩ := h
  have hplain : ∀ part ∈ nameParts ws ++ parts, part.IsPlain := fun part hpart =>
    (List.mem_append.mp hpart).elim (isPlain_nameParts hws part) (hparts part)
  have hsimple : ∀ c ∈ spec.toList, isSimple c = true := by
    intro c hc
    refine isSimple_of_toLower ?_
    have hmem : c.toLower ∈ text ++ gap := hlower ▸ List.mem_map_of_mem hc
    rcases List.mem_append.mp hmem with hmem | hmem
    · rcases htext.isBlank_or_mem hmem with hblank | ⟨part, hpart, hmem⟩
      · simp [isSimple, hblank]
      · simp [isSimple, (hplain part hpart).2 _ hmem]
    · simp [isSimple, hgap _ hmem]
  rw [normalize, squeeze, String.toList_ofList, lower, String.toList_ofList,
    lowerFrom_of_isSimple hsimple, hlower, words_append_gap hgap]
  cases ws with
  | nil => cases hws.head
  | cons w ws =>
    obtain ⟨hw, hrest⟩ := List.forall_mem_cons.mp hplain
    exact htext.joinWords_words hw.1 fun part hpart => (hrest part hpart).1

/-! ## Spelled names, numbers and clauses -/

variable {cs : List Char}

/-- Words with gaps between them are the words of the text. -/
theorem words_append_of_spelled {ws : List (List Char)} (h : Spelled (ws.map (⟨·, true⟩)) cs)
    (hws : ∀ w ∈ ws, IsWord w) {w : List Char} (hw : IsWord w) : words (w ++ cs) = w :: ws := by
  induction ws generalizing cs w with
  | nil =>
    cases h
    rw [List.append_nil, words_of_isWord hw]
  | cons w' ws ih =>
    obtain ⟨hw', hws⟩ := List.forall_mem_cons.mp hws
    cases h with
    | @cons _ _ gap rest hgap hapart hrest =>
      obtain ⟨d, gap, rfl⟩ := List.exists_cons_of_ne_nil (hapart rfl)
      obtain ⟨hd, hgap⟩ := List.forall_mem_cons.mp hgap
      rw [List.cons_append, List.cons_append, words_append_blank hd, words_of_isWord hw,
        List.append_assoc, words_gap_append hgap, ih hrest hws hw', List.singleton_append]

/-- A spelled name has its words. -/
theorem words_of_spelled {ws : List (List Char)} (h : Spelled (nameParts ws) cs)
    (hws : IsNameWords ws) : words cs = ws := by
  cases ws with
  | nil => cases hws.head
  | cons w ws =>
    obtain ⟨hw, hwords⟩ := List.forall_mem_cons.mp hws.each
    cases h with
    | cons hlead _ hrest =>
      rw [List.append_assoc, words_gap_append hlead]
      exact words_append_of_spelled hrest (fun w' hw' => (hwords w' hw').isWord) hw.isWord

/-- A spelled name is a name of the grammar, behind the gap before it. -/
theorem exists_name_of_spelled {ws : List (List Char)} (h : Spelled (nameParts ws) cs)
    (hws : IsNameWords ws) (hcs : ∀ c ∈ cs, isBlank c = true → c = ' ') :
    ∃ lead name, cs = lead ++ name ∧ IsGap lead ∧ IsTypeName name := by
  cases ws with
  | nil => cases hws.head
  | cons w ws =>
    obtain ⟨hw, hwords⟩ := List.forall_mem_cons.mp hws.each
    cases h with
    | @cons _ _ lead rest hlead _ hrest =>
      refine ⟨lead, w ++ rest, List.append_assoc .., hlead, IsTypeName.append ⟨?_, ?_⟩ ?_⟩
      · have hhead := hws.head
        obtain ⟨c, w, rfl⟩ := List.exists_cons_of_ne_nil hw.ne_nil
        exact hhead
      · exact fun c hc => (hw.chars c hc).1
      · intro c hc
        rcases hrest.isBlank_or_mem hc with hblank | ⟨part, hpart, hmem⟩
        · rw [hcs c (List.mem_append_right _ hc) hblank]
          decide
        · obtain ⟨w', hw', rfl⟩ := List.mem_map.mp hpart
          exact ((hwords w' hw').chars c hmem).1

/-- Spelled numbers without their parentheses are read. -/
theorem readModifiers_of_spelled {ms : List Nat}
    (h : Spelled (((ms.map (Nat.toDigits 10)).intersperse [',']).map (⟨·, false⟩)) cs)
    (hcs : ∀ c ∈ cs, isBlank c = true → c = ' ')
    (hshort : ∀ m ∈ ms, (Nat.toDigits 10 m).length ≤ digitLimit) :
    (∀ c ∈ cs, Spelling.isNumbersChar c = true) ∧ readModifiers cs = .ok ms := by
  have hpart : ∀ part ∈ ((ms.map (Nat.toDigits 10)).intersperse [',']).map (Part.mk · false),
      ∀ c ∈ part.text, Spelling.isNumbersChar c = true ∧ c ≠ ' ' := by
    intro part hpart c hc
    obtain ⟨text, htext, rfl⟩ := List.mem_map.mp hpart
    exact isNumbersChar_intercalate (List.mem_flatten_of_mem htext hc)
  refine ⟨fun c hc => ?_, readModifiers_of_digits ?_ hshort⟩
  · rcases h.isBlank_or_mem hc with hblank | ⟨part, hmem, hc⟩
    · rw [hcs c hc hblank]
      decide
    · exact (hpart part hmem c hc).1
  · rw [h.filter_eq hcs fun part hmem c hc => (hpart part hmem c hc).2, List.map_map]
    exact congrArg List.flatten (List.map_id _)

/-- Spelled numbers are numbers of the grammar, behind the gap before them. -/
theorem exists_arguments_of_spelled {ms : List Nat} (h : Spelled (numberParts ms) cs)
    (hcs : ∀ c ∈ cs, isBlank c = true → c = ' ')
    (hshort : ∀ m ∈ ms, (Nat.toDigits 10 m).length ≤ digitLimit) :
    ∃ gap arguments numbers, cs = gap ++ arguments ∧ IsGap gap ∧ IsArguments numbers arguments ∧
      readModifiers numbers = .ok ms := by
  cases h with
  | @cons _ _ gap rest hgap _ hrest =>
    obtain ⟨numbers, closing, rfl, hnumbers, hclosing⟩ := hrest.of_append
    cases hclosing with
    | @cons _ _ gap' rest' hgap' _ hnil =>
      cases hnil
      obtain ⟨hchars, hread⟩ :=
        readModifiers_of_spelled hnumbers (fun c hc => hcs c (by simp [hc])) hshort
      refine ⟨gap, _, numbers, ?_, hgap, .present (List.forall_mem_nil _) hchars hgap', hread⟩
      simp

/-- A spelled clause is a clause of the grammar. -/
theorem isZone_of_spelled {zone : List Char} (hzone : zone ∈ Spelling.zoneClauses)
    (h : Spelled (zoneParts zone) cs) : IsZone cs := by
  have hwords : ∀ zone ∈ Spelling.zoneClauses, ∃ word ∈ ["with".toList, "without".toList],
      zoneParts zone = [⟨word, true⟩, ⟨"time".toList, true⟩, ⟨"zone".toList, true⟩] := by
    decide
  obtain ⟨word, hword, hparts⟩ := hwords zone hzone
  rw [hparts] at h
  cases h with
  | @cons _ _ gap _ hgap hne hrest =>
    cases hrest with
    | @cons _ _ gap' _ hgap' hne' hrest =>
      cases hrest with
      | @cons _ _ gap'' _ hgap'' hne'' hrest =>
        cases hrest
        have hclause :=
          IsZone.present hgap (hne rfl) hword hgap' (hne' rfl) hgap'' (hne'' rfl)
        simpa using hclause

/-- The words of a clause may be words of a name. -/
theorem nameParts_append_zoneParts {ws : List (List Char)} (hws : IsNameWords ws)
    (zone : List Char) : nameParts ws ++ zoneParts zone = nameParts (ws ++ words zone) := by
  cases ws with
  | nil => cases hws.head
  | cons w ws => simp [nameParts, zoneParts]

theorem IsNameWords.append_zone {ws : List (List Char)} (hws : IsNameWords ws) {zone : List Char}
    (hzone : zone ∈ Spelling.zoneClauses) : IsNameWords (ws ++ words zone) where
  each w hw := (List.mem_append.mp hw).elim (hws.each w) (isNameWord_zone zone hzone w)
  head := by
    cases ws with
    | nil => cases hws.head
    | cons w ws => exact hws.head

/-! ## What is read of a spelling -/

/-- A spelled type is written as the grammar says, so it is read under the canonical name of all its
words. -/
theorem parse_of_spelled {spec : String} {ws : List (List Char)} {ms : List Nat}
    {text gap arguments numbers zone : List Char} (hws : IsNameWords ws)
    (hnormal : normalize spec = text ++ (gap ++ arguments) ++ zone)
    (htext : Spelled (nameParts ws) text) (hgap : IsGap gap)
    (harguments : IsArguments numbers arguments) (hnumbers : readModifiers numbers = .ok ms)
    (hzone : IsZone zone) :
    parse spec = .ok ⟨canonicalName (String.ofList (joinWords (words (text ++ zone)))), ms⟩ := by
  have hsqueezed := isSqueezed_normalize spec
  rw [hnormal] at hsqueezed
  obtain ⟨lead, name, rfl, hlead, hname⟩ := exists_name_of_spelled htext hws fun c hc =>
    hsqueezed.blank c (List.mem_append_left _ (List.mem_append_left _ hc))
  have hparts : IsTypeText name numbers zone (normalize spec) := by
    have hgrammar := IsTypeText.mk hlead hname hgap harguments hzone (List.forall_mem_nil _)
    rw [hnormal]
    simpa using hgrammar
  rw [parse_of_isTypeText hparts, hnumbers, List.append_assoc, words_gap_append hlead]
  rfl

/-- A name alone. -/
theorem parse_of_isSpelling_name {spec : String} {ws : List (List Char)} (hws : IsNameWords ws)
    (h : IsSpelling (nameParts ws) spec) :
    parse spec = .ok ⟨canonicalName (String.ofList (joinWords ws)), []⟩ := by
  rw [← List.append_nil (nameParts ws)] at h
  have hspelled := h.spelled_normalize hws (List.forall_mem_nil _)
  rw [List.append_nil] at hspelled
  have hnormal : normalize spec = normalize spec ++ ([] ++ []) ++ [] := by simp
  have hparse := parse_of_spelled hws hnormal hspelled (List.forall_mem_nil _) .absent rfl .absent
  rwa [List.append_nil, words_of_spelled hspelled hws] at hparse

/-- Numbers behind a name, and possibly a clause behind them, which gives its words to the name. -/
theorem parse_of_isSpelling_numbers {spec : String} {ws ws' : List (List Char)} {ms : List Nat}
    {parts : List Part} (hws : IsNameWords ws) (hws' : IsNameWords ws')
    (hshort : ∀ m ∈ ms, (Nat.toDigits 10 m).length ≤ digitLimit)
    (hparts : ∀ part ∈ parts, part.IsPlain) (hzone : ∀ text, Spelled parts text → IsZone text)
    (hwords : nameParts ws ++ parts = nameParts ws')
    (h : IsSpelling (nameParts ws ++ numberParts ms ++ parts) spec) :
    parse spec = .ok ⟨canonicalName (String.ofList (joinWords ws')), ms⟩ := by
  rw [List.append_assoc] at h
  have hspelled := h.spelled_normalize hws fun part hpart =>
    (List.mem_append.mp hpart).elim (isPlain_numberParts ms part) (hparts part)
  obtain ⟨text, rest, hnormal, htext, hrest⟩ := hspelled.of_append
  obtain ⟨middle, zone, rfl, hmiddle, hclause⟩ := hrest.of_append
  have hsqueezed := isSqueezed_normalize spec
  rw [hnormal] at hsqueezed
  obtain ⟨gap, arguments, numbers, rfl, hgap, harguments, hnumbers⟩ :=
    exists_arguments_of_spelled hmiddle
      (fun c hc => hsqueezed.blank c (List.mem_append_right _ (List.mem_append_left _ hc))) hshort
  rw [← List.append_assoc] at hnormal
  have hwhole := htext.append hclause
  rw [hwords] at hwhole
  rw [parse_of_spelled hws hnormal htext hgap harguments hnumbers (hzone zone hclause),
    words_of_spelled hwhole hws']

/-- Whatever the case of its letters and the gaps around its parts, a name is read as the type with
its canonical name, a name with numbers as the type with these numbers, and a name with a time zone
clause and with numbers as the type with the canonical name of all its words and with these numbers,
whether the clause stands before the numbers or behind them. -/
theorem spellings_read_alike {ws : List (List Char)} {ms : List Nat} {zone : List Char}
    (hws : IsNameWords ws) (hshort : ∀ m ∈ ms, (Nat.toDigits 10 m).length ≤ digitLimit)
    (hzone : zone ∈ Spelling.zoneClauses) (spec : String) :
    (IsSpelling (nameParts ws) spec →
        parse spec = .ok ⟨canonicalName (String.ofList (joinWords ws)), []⟩) ∧
      (IsSpelling (nameParts ws ++ numberParts ms) spec →
        parse spec = .ok ⟨canonicalName (String.ofList (joinWords ws)), ms⟩) ∧
      (IsSpelling (nameParts ws ++ numberParts ms ++ zoneParts zone) spec ∨
          IsSpelling (nameParts ws ++ zoneParts zone ++ numberParts ms) spec →
        parse spec = .ok ⟨canonicalName (String.ofList (joinWords ws ++ ' ' :: zone)), ms⟩) := by
  have hbare (ws : List (List Char)) (hws : IsNameWords ws)
      (h : IsSpelling (nameParts ws ++ numberParts ms) spec) :
      parse spec = .ok ⟨canonicalName (String.ofList (joinWords ws)), ms⟩ := by
    rw [← List.append_nil (nameParts ws ++ numberParts ms)] at h
    refine parse_of_isSpelling_numbers hws hws hshort (List.forall_mem_nil _) (fun _ hnil => ?_)
      (List.append_nil _) h
    cases hnil
    exact .absent
  have hne : ws ≠ [] := by
    rintro rfl
    cases hws.head
  refine ⟨parse_of_isSpelling_name hws, hbare ws hws, fun h => ?_⟩
  rw [← joinWords_append_zone hne hzone]
  rcases h with h | h
  · exact parse_of_isSpelling_numbers hws (hws.append_zone hzone) hshort (isPlain_zoneParts hzone)
      (fun _ => isZone_of_spelled hzone) (nameParts_append_zoneParts hws zone) h
  · rw [nameParts_append_zoneParts hws] at h
    exact hbare _ (hws.append_zone hzone) h

/-- A time stamp in capital and small letters, with blanks of several kinds: the clause may stand
behind the numbers or before them. -/
theorem spellings_read_alike_timeZone :
    parse "  TimeStamp ( 3 )\u00a0WITH\tTime Zone " = .ok ⟨"timestamptz", [3]⟩ ∧
      parse "timestamp\nwith time  zone(3)" = .ok ⟨"timestamptz", [3]⟩ := by
  have hread := @spellings_read_alike ["timestamp".toList] [3] "with time zone".toList
    ⟨by decide, by decide⟩ (by decide) (by decide)
  have hnone : IsGap [] := by decide
  have hspace : IsGap [' '] := by decide
  have hwide : IsGap [' ', ' '] := by decide
  have hhard : IsGap ['\u00a0'] := by decide
  have htab : IsGap ['\t'] := by decide
  have hline : IsGap ['\n'] := by decide
  have hbehind : IsSpelling (nameParts ["timestamp".toList] ++ numberParts [3] ++
      zoneParts "with time zone".toList) "  TimeStamp ( 3 )\u00a0WITH\tTime Zone " :=
    ⟨_, [' '], .cons hwide (by decide) (.cons hspace (by decide) (.cons hspace (by decide)
      (.cons hspace (by decide) (.cons hhard (by decide) (.cons htab (by decide)
      (.cons hspace (by decide) .nil)))))), hspace, by rfl⟩
  have hbefore : IsSpelling (nameParts ["timestamp".toList] ++
      zoneParts "with time zone".toList ++ numberParts [3]) "timestamp\nwith time  zone(3)" :=
    ⟨_, [], .cons hnone (by decide) (.cons hline (by decide) (.cons hspace (by decide)
      (.cons hwide (by decide) (.cons hnone (by decide) (.cons hnone (by decide)
      (.cons hnone (by decide) .nil)))))), hnone, by rfl⟩
  exact ⟨(hread _).2.2 (.inl hbehind), (hread _).2.2 (.inr hbefore)⟩

end MigrationSafety.ColumnType
