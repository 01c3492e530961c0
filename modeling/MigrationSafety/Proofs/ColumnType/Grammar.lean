import Mathlib.Data.List.DropRight
import MigrationSafety.ColumnType.Parser
import MigrationSafety.Proofs.Text.Case
import MigrationSafety.Proofs.Text.Words

/-!
# The grammar of column types

A type is written as a name, numbers in parentheses and a time zone clause, with gaps in between.
A text may be written like that in several ways, since the words of a clause are words of a name as
well; all of them are read alike. The name that is read has the words of both, whatever stands
between them.

* `IsTypeText`: the grammar;
* `parse_of_isTypeText`: what is read of a text that is written like that;
* `parse_of_not_isTypeText`: any other text is kept.
-/

namespace MigrationSafety.ColumnType

open Text

/-! ## Normal form -/

/-- A normal form has single spaces between words. -/
theorem isSqueezed_normalize (spec : String) : IsSqueezed (normalize spec) := by
  rw [normalize, squeeze, String.toList_ofList]
  exact isSqueezed_joinWords fun _ => isWord_of_mem_words

/-- A normal form is in lower case. -/
theorem isLowered_of_mem_normalize {spec : String} {c : Char} (h : c ∈ normalize spec) :
    isLowered c = true := by
  rw [normalize, squeeze, String.toList_ofList, lower, String.toList_ofList] at h
  rcases mem_joinWords h with rfl | ⟨w, hw, hc⟩
  · decide +kernel
  · exact isLowered_of_mem_lowerFrom (mem_of_mem_words hw hc).1

/-- A text in lower case with single spaces between words is its own normal form. -/
theorem normalize_of_isSqueezed {cs : List Char} (h : IsSqueezed cs)
    (hlower : ∀ c ∈ cs, isLowered c = true) : normalize (String.ofList cs) = cs := by
  rw [normalize, squeeze, String.toList_ofList, lower, String.toList_ofList, String.toList_ofList,
    lowerFrom_of_isLowered hlower]
  exact joinWords_words h

/-! ## The grammar -/

/-- The name of a type: a letter, and further characters of names. -/
structure IsTypeName (name : List Char) : Prop where
  head : (name.head?.any fun c => 'a' ≤ c && c ≤ 'z') = true
  chars : ∀ c ∈ name, Spelling.isNameChar c = true

instance (name : List Char) : Decidable (IsTypeName name) :=
  decidable_of_iff ((name.head?.any fun c => 'a' ≤ c && c ≤ 'z') = true ∧
      name.all Spelling.isNameChar = true)
    ⟨fun h => ⟨h.1, List.all_eq_true.mp h.2⟩, fun h => ⟨h.head, List.all_eq_true.mpr h.chars⟩⟩

/-- Numbers in parentheses; `numbers` is what stands between them, up to the blanks at its ends. -/
inductive IsArguments : (numbers text : List Char) → Prop
  | absent : IsArguments [] []
  | present {before numbers after : List Char} (hbefore : IsGap before)
      (hnumbers : ∀ c ∈ numbers, Spelling.isNumbersChar c = true) (hafter : IsGap after) :
      IsArguments numbers ('(' :: (before ++ numbers ++ after) ++ [')'])

/-- A time zone clause with the blanks before it. -/
inductive IsZone : (text : List Char) → Prop
  | absent : IsZone []
  | present {gap gap' gap'' word : List Char} (hgap : IsGap gap) (hne : gap ≠ [])
      (hword : word ∈ ["with".toList, "without".toList]) (hgap' : IsGap gap') (hne' : gap' ≠ [])
      (hgap'' : IsGap gap'') (hne'' : gap'' ≠ []) :
      IsZone (gap ++ word ++ gap' ++ "time".toList ++ gap'' ++ "zone".toList)

/-- A text that is written as a type: with a name, with numbers in parentheses or without, and with
a time zone clause or without. -/
inductive IsTypeText (name numbers zone : List Char) : (text : List Char) → Prop
  | mk {lead gap arguments tail : List Char} (hlead : IsGap lead) (hname : IsTypeName name)
      (hgap : IsGap gap) (harguments : IsArguments numbers arguments) (hzone : IsZone zone)
      (htail : IsGap tail) :
      IsTypeText name numbers zone (lead ++ name ++ gap ++ arguments ++ zone ++ tail)

/-! ## Characters of names and numbers -/

theorem toNat_lt_of_isNameChar {c : Char} (h : Spelling.isNameChar c = true) : c.toNat < 0x80 := by
  simp only [Spelling.isNameChar, Bool.or_eq_true, Bool.and_eq_true, decide_eq_true_eq,
    beq_iff_eq] at h
  rcases h with ((⟨-, h⟩ | ⟨-, h⟩) | rfl) | rfl
  · exact Nat.lt_of_le_of_lt h (by decide)
  · exact Nat.lt_of_le_of_lt h (by decide)
  · decide
  · decide

/-- A name is in lower case, and no blanks but spaces stand in it. -/
theorem isLowered_of_isNameChar {c : Char} (h : Spelling.isNameChar c = true) :
    isLowered c = true ∧ (isBlank c = true → c = ' ') := by
  have hascii : ∀ n < 0x80, Spelling.isNameChar (Char.ofNat n) = true →
      (Char.ofNat n).toLower = Char.ofNat n ∧
        (isBlank (Char.ofNat n) = true → Char.ofNat n = ' ') := by
    decide +kernel
  have hlt := toNat_lt_of_isNameChar h
  have hc := hascii c.toNat hlt
  rw [Char.ofNat_toNat] at hc
  have hlower := isLowered_toLower hlt
  rw [(hc h).1] at hlower
  exact ⟨hlower, (hc h).2⟩

namespace IsTypeName

variable {name : List Char}

theorem ne_nil (h : IsTypeName name) : name ≠ [] := by
  rintro rfl
  cases h.head

theorem append (h : IsTypeName name) {rest : List Char}
    (hrest : ∀ c ∈ rest, Spelling.isNameChar c = true) : IsTypeName (name ++ rest) where
  head := by
    obtain ⟨c, name, rfl⟩ := List.exists_cons_of_ne_nil h.ne_nil
    exact h.head
  chars c hc := (List.mem_append.mp hc).elim (h.chars c) (hrest c)

/-- A name begins with a letter, so its words do. -/
theorem joinWords_words (h : IsTypeName name) : IsTypeName (joinWords (words name)) where
  head := by
    have hhead := h.head
    obtain ⟨c, name, rfl⟩ := List.exists_cons_of_ne_nil h.ne_nil
    have hsolid : isBlank c = false := by
      refine Bool.eq_false_iff.mpr fun hblank => ?_
      obtain rfl := (isLowered_of_isNameChar (h.chars c (.head _))).2 hblank
      rw [List.head?_cons, Option.any_some] at hhead
      exact absurd hhead (by decide)
    rwa [head?_joinWords_words hsolid]
  chars c hc := by
    rcases mem_joinWords hc with rfl | ⟨w, hw, hc⟩
    · decide
    · exact h.chars c (mem_of_mem_words hw hc).1

/-- A name has words. -/
theorem words_ne_nil (h : IsTypeName name) : words name ≠ [] := fun hnil =>
  h.joinWords_words.ne_nil (by rw [hnil, joinWords_nil])

end IsTypeName

/-! ## Time zone clauses -/

/-- What stands behind a name for a time zone clause. -/
def zoneText : Option (List Char) → List Char
  | none => []
  | some zone => ' ' :: zone

theorem fullName_eq (s : Spelling) : s.fullName = String.ofList (s.name ++ zoneText s.zone) := by
  rw [Spelling.fullName]
  split <;> simp_all [zoneText]

/-- A clause is words with single spaces between them. -/
theorem joinWords_words_zone : ∀ zone ∈ Spelling.zoneClauses, joinWords (words zone) = zone := by
  decide

/-- A clause consists of words that may stand in a name. -/
theorem isNameChar_zoneText {zone : Option (List Char)} (h : ∀ z ∈ zone, z ∈ Spelling.zoneClauses) :
    ∀ c ∈ zoneText zone, Spelling.isNameChar c = true := by
  have hclause : ∀ z ∈ Spelling.zoneClauses, (' ' :: z).all Spelling.isNameChar = true := by
    decide
  cases zone with
  | none => exact List.forall_mem_nil _
  | some z => exact List.all_eq_true.mp (hclause z (h z rfl))

theorem splitZone_zoneText {zone : Option (List Char)} (h : ∀ z ∈ zone, z ∈ Spelling.zoneClauses) :
    Spelling.splitZone (zoneText zone) = ([], zone) := by
  have hclause : ∀ z ∈ Spelling.zoneClauses, Spelling.splitZone (' ' :: z) = ([], some z) := by
    decide
  cases zone with
  | none => rfl
  | some z => exact hclause z (h z rfl)

/-- Splitting a clause off loses nothing. -/
theorem splitZone_append (cs : List Char) :
    (Spelling.splitZone cs).1 ++ zoneText (Spelling.splitZone cs).2 = cs ∧
      ∀ z ∈ (Spelling.splitZone cs).2, z ∈ Spelling.zoneClauses := by
  rw [Spelling.splitZone]
  split
  · rename_i zone hfind
    have hsuffix := List.find?_some hfind
    obtain ⟨before, rfl⟩ := List.isSuffixOf_iff_suffix.mp hsuffix
    refine ⟨by simp [zoneText], fun z hz => ?_⟩
    cases hz
    exact List.mem_of_find?_eq_some hfind
  · exact ⟨List.append_nil cs, nofun⟩

/-- In a text with single spaces between words, a clause is written in one way. -/
theorem IsZone.exists_zoneText {zone cs : List Char} (h : IsZone zone) (hcs : IsSqueezed cs)
    (hpart : zone <:+: cs) :
    ∃ clause, zone = zoneText clause ∧ ∀ z ∈ clause, z ∈ Spelling.zoneClauses := by
  cases h with
  | absent => exact ⟨none, rfl, nofun⟩
  | @present gap gap' gap'' word hgap hne hword hgap' hne' hgap'' hne'' =>
    have hspace {part : List Char} (hgap : IsGap part) (hne : part ≠ [])
        (hwithin : part <:+: gap ++ word ++ gap' ++ "time".toList ++ gap'' ++ "zone".toList) :
        part = [' '] :=
      (hcs.eq_space_of_infix hgap (hwithin.trans hpart)).resolve_left hne
    obtain rfl := hspace hgap hne ⟨[], word ++ gap' ++ "time".toList ++ gap'' ++ "zone".toList,
      by simp⟩
    obtain rfl := hspace hgap' hne' ⟨[' '] ++ word, "time".toList ++ gap'' ++ "zone".toList,
      by simp⟩
    obtain rfl := hspace hgap'' hne'' ⟨[' '] ++ word ++ [' '] ++ "time".toList, "zone".toList,
      by simp⟩
    rw [List.mem_cons, List.mem_singleton] at hword
    rcases hword with rfl | rfl
    · exact ⟨some "with time zone".toList, rfl, fun z hz => by cases hz; decide⟩
    · exact ⟨some "without time zone".toList, rfl, fun z hz => by cases hz; decide⟩

/-- The parts of a text with single spaces between words that is written as a type. -/
theorem IsTypeText.exists_zoneText {name numbers zone cs : List Char}
    (h : IsTypeText name numbers zone cs) (hcs : IsSqueezed cs) :
    IsTypeName name ∧ (∀ c ∈ numbers, Spelling.isNumbersChar c = true) ∧
      ∃ clause, zone = zoneText clause ∧ ∀ z ∈ clause, z ∈ Spelling.zoneClauses := by
  obtain @⟨lead, gap, arguments, tail, hlead, hname, hgap, harguments, hzone, htail⟩ := h
  refine ⟨hname, ?_, hzone.exists_zoneText hcs ⟨_, tail, rfl⟩⟩
  cases harguments with
  | absent => exact List.forall_mem_nil _
  | present _ hnumbers _ => exact hnumbers

theorem isZone_zoneText {zone : Option (List Char)} (h : ∀ z ∈ zone, z ∈ Spelling.zoneClauses) :
    IsZone (zoneText zone) := by
  have hspace : IsGap [' '] := by simp [IsGap, isBlank_space]
  cases zone with
  | none => exact .absent
  | some z =>
    have hz := h z rfl
    rw [Spelling.zoneClauses, List.mem_cons, List.mem_singleton] at hz
    rcases hz with rfl | rfl
    · exact .present hspace (by simp) (.head _) hspace (by simp) hspace (by simp)
    · exact .present hspace (by simp) (.tail _ (.head _)) hspace (by simp) hspace (by simp)

/-! ## Taking spellings apart -/

/-- Names are taken up to the first character that may not stand in one. -/
theorem ofChars?_name {name : List Char} (hname : IsTypeName name) :
    Spelling.ofChars? name =
      some ⟨(Spelling.splitZone name).1, none, (Spelling.splitZone name).2⟩ := by
  have htake : name.takeWhile Spelling.isNameChar = name :=
    List.takeWhile_eq_self_iff.mpr hname.chars
  have hdrop : name.dropWhile Spelling.isNameChar = [] :=
    List.dropWhile_eq_nil_iff.mpr hname.chars
  simp [Spelling.ofChars?, htake, hdrop, hname.head]

/-- Numbers are taken up to the closing parenthesis, and a clause may follow it. -/
theorem ofChars?_numbers {name numbers : List Char} {zone : Option (List Char)}
    (hname : IsTypeName name) (hnumbers : ∀ c ∈ numbers, Spelling.isNumbersChar c = true)
    (hzone : ∀ z ∈ zone, z ∈ Spelling.zoneClauses) :
    Spelling.ofChars? (name ++ '(' :: (numbers ++ ')' :: zoneText zone)) =
      some ⟨name.rdropWhile (· == ' '), some numbers, zone⟩ := by
  have htake : (name ++ '(' :: (numbers ++ ')' :: zoneText zone)).takeWhile Spelling.isNameChar =
      name := by
    rw [List.takeWhile_append_of_pos hname.chars]
    exact List.append_nil name
  have hdrop : (name ++ '(' :: (numbers ++ ')' :: zoneText zone)).dropWhile Spelling.isNameChar =
      '(' :: (numbers ++ ')' :: zoneText zone) := by
    rw [List.dropWhile_append_of_pos hname.chars]
    rfl
  have htake' : (numbers ++ ')' :: zoneText zone).takeWhile Spelling.isNumbersChar = numbers := by
    rw [List.takeWhile_append_of_pos hnumbers]
    exact List.append_nil numbers
  have hdrop' : (numbers ++ ')' :: zoneText zone).dropWhile Spelling.isNumbersChar =
      ')' :: zoneText zone := by
    rw [List.dropWhile_append_of_pos hnumbers]
    rfl
  simp [Spelling.ofChars?, htake, hdrop, htake', hdrop', hname.head, splitZone_zoneText hzone,
    List.rdropWhile]

/-- A name alone is written as a type. -/
theorem isTypeText_name {name : List Char} (hname : IsTypeName name) :
    IsTypeText name [] [] name := by
  have hnil : IsGap [] := List.forall_mem_nil _
  have htext := IsTypeText.mk hnil hname hnil .absent .absent hnil
  simpa using htext

/-- A name with numbers is written as a type, with a clause behind it or without. -/
theorem isTypeText_numbers {name numbers : List Char} {zone : Option (List Char)}
    (hname : IsTypeName name) (hnumbers : ∀ c ∈ numbers, Spelling.isNumbersChar c = true)
    (hzone : ∀ z ∈ zone, z ∈ Spelling.zoneClauses) :
    IsTypeText name numbers (zoneText zone)
      (name ++ '(' :: (numbers ++ ')' :: zoneText zone)) := by
  have hnil : IsGap [] := List.forall_mem_nil _
  have htext := IsTypeText.mk hnil hname hnil (.present hnil hnumbers hnil)
    (isZone_zoneText hzone) hnil
  simpa using htext

/-- Whatever is taken apart is written as a type. -/
theorem isTypeText_of_ofChars? {cs : List Char} {spelling : Spelling}
    (h : Spelling.ofChars? cs = some spelling) : ∃ name numbers zone,
      IsTypeText name numbers zone cs := by
  rw [Spelling.ofChars?] at h
  have hchars : ∀ c ∈ cs.takeWhile Spelling.isNameChar, Spelling.isNameChar c = true :=
    fun c hc => List.mem_takeWhile_imp hc
  have hcs := List.takeWhile_append_dropWhile (p := Spelling.isNameChar) (l := cs)
  generalize cs.takeWhile Spelling.isNameChar = name at h hchars hcs
  split at h
  · cases h
  · rename_i hhead
    have hname : IsTypeName name := ⟨by simpa using hhead, hchars⟩
    split at h
    · rename_i hrest
      rw [hrest, List.append_nil] at hcs
      exact ⟨_, _, _, hcs ▸ isTypeText_name hname⟩
    · rename_i rest hrest
      rw [hrest] at hcs
      dsimp only at h
      have hnumbers : ∀ c ∈ rest.takeWhile Spelling.isNumbersChar,
          Spelling.isNumbersChar c = true := fun c hc => List.mem_takeWhile_imp hc
      have hrest := List.takeWhile_append_dropWhile (p := Spelling.isNumbersChar) (l := rest)
      split at h
      · rename_i rest' hrest'
        split at h
        · rename_i zone hsplit
          have hzone := splitZone_append rest'
          rw [hsplit] at hzone
          rw [hrest', ← hzone.1] at hrest
          exact ⟨_, _, _, hcs ▸ hrest ▸ isTypeText_numbers hname hnumbers hzone.2⟩
        · cases h
      · cases h
    · cases h

/-! ## What is read -/

/-- Only what is between the spaces of the numbers matters. -/
theorem readModifiers_congr {cs ds : List Char}
    (h : cs.filter (· != ' ') = ds.filter (· != ' ')) : readModifiers cs = readModifiers ds := by
  rw [readModifiers, readModifiers, h]

/-- What stands before the spaces at the end. -/
theorem exists_rdropWhile (cs : List Char) : ∃ gap, IsGap gap ∧
    cs.rdropWhile (· == ' ') ++ gap = cs ∧ (cs.rdropWhile (· == ' ')).getLast? ≠ some ' ' := by
  refine ⟨cs.rtakeWhile (· == ' '), fun c hc => ?_, List.rdropWhile_append_rtakeWhile .., ?_⟩
  · have hspace := List.mem_rtakeWhile_imp hc
    rw [beq_iff_eq.mp hspace]
    exact isBlank_space
  · intro hlast
    have hne : cs.rdropWhile (· == ' ') ≠ [] := fun hnil => by
      rw [hnil] at hlast
      cases hlast
    rw [List.getLast?_eq_some_getLast hne] at hlast
    exact List.rdropWhile_last_not _ _ hne (beq_iff_eq.mpr (Option.some.inj hlast))

theorem joinWords_append_zone {ws : List (List Char)} (hne : ws ≠ []) {zone : List Char}
    (hzone : zone ∈ Spelling.zoneClauses) :
    joinWords (ws ++ words zone) = joinWords ws ++ ' ' :: zone := by
  have hwords : ∀ zone ∈ Spelling.zoneClauses, words zone ≠ [] := by decide
  rw [joinWords_append hne (hwords zone hzone), joinWords_words_zone zone hzone]

/-- The words of a clause come behind those of the name. -/
theorem joinWords_words_zoneText {name : List Char} {zone : Option (List Char)}
    (hne : words name ≠ []) (hzone : ∀ z ∈ zone, z ∈ Spelling.zoneClauses) :
    joinWords (words (name ++ zoneText zone)) = joinWords (words name) ++ zoneText zone := by
  cases zone with
  | none => simp [zoneText]
  | some z =>
    rw [zoneText, words_append_blank isBlank_space, joinWords_append_zone hne (hzone z rfl)]

/-- Without numbers, the whole text is the name that is read. -/
theorem ofChars?_of_absent {name gap : List Char} {zone : Option (List Char)}
    (hcs : IsSqueezed (name ++ gap ++ zoneText zone)) (hname : IsTypeName name) (hgap : IsGap gap)
    (hzone : ∀ z ∈ zone, z ∈ Spelling.zoneClauses) :
    ∃ spelling, Spelling.ofChars? (name ++ gap ++ zoneText zone) = some spelling ∧
      spelling.numbers = none ∧
      spelling.fullName = String.ofList (joinWords (words (name ++ zoneText zone))) := by
  have hnil : gap = [] := by
    cases zone with
    | none => exact hcs.eq_nil_of_suffix hgap ⟨name, by simp [zoneText]⟩
    | some z =>
      have htwo : IsGap (gap ++ [' ']) := by
        simpa [IsGap, or_imp, forall_and, isBlank_space] using hgap
      have hone := hcs.eq_space_of_infix htwo ⟨name, z, by simp [zoneText]⟩
      simpa using hone
  rw [hnil, List.append_nil] at hcs ⊢
  have hwhole : IsTypeName (name ++ zoneText zone) := hname.append (isNameChar_zoneText hzone)
  refine ⟨_, ofChars?_name hwhole, rfl, ?_⟩
  rw [fullName_eq, (splitZone_append _).1, joinWords_words hcs]

/-- With numbers, the name that is read is what stands around them. -/
theorem ofChars?_of_present {name gap numbers : List Char} {zone : Option (List Char)}
    (hcs : IsSqueezed (name ++ gap ++ '(' :: (numbers ++ ')' :: zoneText zone)))
    (hname : IsTypeName name) (hgap : IsGap gap)
    (hnumbers : ∀ c ∈ numbers, Spelling.isNumbersChar c = true)
    (hzone : ∀ z ∈ zone, z ∈ Spelling.zoneClauses) :
    ∃ spelling, Spelling.ofChars? (name ++ gap ++ '(' :: (numbers ++ ')' :: zoneText zone)) =
        some spelling ∧ spelling.numbers = some numbers ∧
      spelling.fullName = String.ofList (joinWords (words (name ++ zoneText zone))) := by
  have hbody : IsTypeName (name ++ gap) := hname.append fun c hc => by
    rw [hcs.blank c (by simp [hc]) (hgap c hc)]
    decide
  refine ⟨_, ofChars?_numbers hbody hnumbers hzone, rfl, ?_⟩
  rw [fullName_eq, joinWords_words_zoneText hname.words_ne_nil hzone]
  obtain ⟨spaces, hspaces, hsplit, hlast⟩ := exists_rdropWhile (name ++ gap)
  generalize (name ++ gap).rdropWhile (· == ' ') = trimmed at hsplit hlast
  -- Before the spaces at its end, the name has single spaces between words.
  have htrimmed : IsSqueezed trimmed :=
    hcs.of_prefix ⟨spaces ++ '(' :: (numbers ++ ')' :: zoneText zone), by
      rw [← List.append_assoc, hsplit]⟩ hlast
  have hwords : words name = words trimmed := by
    rw [← words_append_gap hgap name, ← hsplit, words_append_gap hspaces]
  rw [hwords, joinWords_words htrimmed]

/-- The blanks around numbers do not matter if they are spaces. -/
theorem IsArguments.eq_nil_or {numbers text : List Char} (h : IsArguments numbers text)
    (htext : ∀ c ∈ text, isBlank c = true → c = ' ') : text = [] ∧ numbers = [] ∨
      ∃ inner, text = '(' :: (inner ++ [')']) ∧
        (∀ c ∈ inner, Spelling.isNumbersChar c = true) ∧
        readModifiers inner = readModifiers numbers := by
  cases h with
  | absent => exact .inl ⟨rfl, rfl⟩
  | @present before _ after hbefore hnumbers hafter =>
    have hbefore' : ∀ c ∈ before, c = ' ' := fun c hc => htext c (by simp [hc]) (hbefore c hc)
    have hafter' : ∀ c ∈ after, c = ' ' := fun c hc => htext c (by simp [hc]) (hafter c hc)
    refine .inr ⟨before ++ numbers ++ after, rfl, fun c hc => ?_, readModifiers_congr ?_⟩
    · rw [List.mem_append, List.mem_append] at hc
      rcases hc with (hc | hc) | hc
      · rw [hbefore' c hc]
        decide
      · exact hnumbers c hc
      · rw [hafter' c hc]
        decide
    · rw [List.filter_append, List.filter_append, filter_eq_nil_of_spaces hbefore',
        filter_eq_nil_of_spaces hafter', List.nil_append, List.append_nil]

/-- Every way to write a text as a type leads to what is taken apart. -/
theorem ofChars?_of_isTypeText {name numbers zone cs : List Char} (hcs : IsSqueezed cs)
    (h : IsTypeText name numbers zone cs) : ∃ spelling, Spelling.ofChars? cs = some spelling ∧
      readModifiers (spelling.numbers.getD []) = readModifiers numbers ∧
      spelling.fullName = String.ofList (joinWords (words (name ++ zone))) := by
  obtain @⟨lead, gap, arguments, tail, hlead, hname, hgap, harguments, hzone, htail⟩ := h
  obtain rfl := hcs.eq_nil_of_prefix hlead ⟨_, by simp only [List.append_assoc]; rfl⟩
  obtain rfl := hcs.eq_nil_of_suffix htail ⟨_, rfl⟩
  obtain ⟨clause, rfl, hclause⟩ := hzone.exists_zoneText hcs ⟨_, [], rfl⟩
  rw [List.nil_append, List.append_nil] at hcs ⊢
  have hspaces : ∀ c ∈ arguments, isBlank c = true → c = ' ' := fun c hc =>
    hcs.blank c (List.mem_append_left _ (List.mem_append_right _ hc))
  rcases harguments.eq_nil_or hspaces with ⟨rfl, rfl⟩ | ⟨inner, rfl, hinner, hread⟩
  · rw [List.append_nil] at hcs ⊢
    obtain ⟨spelling, hspelling, hnone, hname⟩ := ofChars?_of_absent hcs hname hgap hclause
    exact ⟨spelling, hspelling, by rw [hnone, Option.getD_none], hname⟩
  · have htext : name ++ gap ++ '(' :: (inner ++ [')']) ++ zoneText clause =
        name ++ gap ++ '(' :: (inner ++ ')' :: zoneText clause) := by
      simp only [List.append_assoc, List.cons_append, List.nil_append]
    rw [htext] at hcs ⊢
    obtain ⟨spelling, hspelling, hsome, hname⟩ :=
      ofChars?_of_present hcs hname hgap hinner hclause
    exact ⟨spelling, hspelling, by rw [hsome, Option.getD_some, hread], hname⟩

theorem parse_eq (spec : String) : parse spec =
    match Spelling.ofChars? (normalize spec) with
    | none => .ok ⟨String.ofList (normalize spec), []⟩
    | some spelling =>
      (readModifiers (spelling.numbers.getD [])).map (⟨canonicalName spelling.fullName, ·⟩) := by
  -- How the text is brought into its normal form must not be computed here.
  delta parse
  generalize normalize spec = cs
  dsimp only
  cases Spelling.ofChars? cs with
  | none => rfl
  | some spelling => cases readModifiers (spelling.numbers.getD []) <;> rfl

/-- What is read of a text that is written as a type: the words of its name and of its clause, put
under the canonical name, and its numbers. -/
theorem parse_of_isTypeText {spec : String} {name numbers zone : List Char}
    (h : IsTypeText name numbers zone (normalize spec)) :
    parse spec = (readModifiers numbers).map
      (⟨canonicalName (String.ofList (joinWords (words (name ++ zone)))), ·⟩) := by
  obtain ⟨spelling, hspelling, hnumbers, hname⟩ :=
    ofChars?_of_isTypeText (isSqueezed_normalize spec) h
  rw [parse_eq, hspelling]
  dsimp only
  rw [hnumbers, hname]

/-- A text that is not written as a type is kept, in its normal form. -/
theorem parse_of_not_isTypeText {spec : String}
    (h : ∀ name numbers zone, ¬IsTypeText name numbers zone (normalize spec)) :
    parse spec = .ok ⟨String.ofList (normalize spec), []⟩ := by
  cases hspelling : Spelling.ofChars? (normalize spec) with
  | none => rw [parse_eq, hspelling]
  | some spelling =>
    obtain ⟨name, numbers, zone, htext⟩ := isTypeText_of_ofChars? hspelling
    exact absurd htext (h name numbers zone)

end MigrationSafety.ColumnType
