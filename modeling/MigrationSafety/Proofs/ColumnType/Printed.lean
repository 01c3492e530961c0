import MigrationSafety.Proofs.ColumnType.Readable

/-!
# Printed column types

A type that is read has a canonical name and numbers that can be printed. Printed, it is written
with its numbers directly behind the name, whether a time zone clause stood before or behind them,
and so it is read again as the type that it is. What is not written as a type is its own name.

* `canonicalName_canonicalName`: canonical names stay as they are;
* `IsRegular`: a type with a canonical name of the grammar and with numbers that can be printed;
* `printed_types_read_back`: a type that is read is printed and read again as the same type.
-/

namespace MigrationSafety.ColumnType

open Text

/-! ## Canonical names -/

/-- A canonical name is the name itself or stands in the table. -/
theorem canonicalName_eq_or (name : String) :
    canonicalName name = name ∨ ∃ p ∈ synonyms, p.1 = name ∧ canonicalName name = p.2 := by
  rw [canonicalName]
  cases hlookup : synonyms.lookup name with
  | none => exact .inl rfl
  | some canonical =>
    obtain ⟨before, after, htable, -⟩ := List.lookup_eq_some_iff.mp hlookup
    exact .inr ⟨(name, canonical), by simp [htable], rfl, rfl⟩

/-- Both names of a pair are names of the grammar, and the second one is canonical. -/
theorem isTypeName_synonyms : ∀ p ∈ synonyms, IsTypeName p.1.toList ∧ IsTypeName p.2.toList ∧
    IsSqueezed p.2.toList ∧ canonicalName p.2 = p.2 := by
  decide +kernel

/-- Canonical names stay as they are. -/
theorem canonicalName_canonicalName (name : String) :
    canonicalName (canonicalName name) = canonicalName name := by
  rcases canonicalName_eq_or name with hname | ⟨p, hp, -, hname⟩
  · rw [hname, hname]
  · rw [hname, (isTypeName_synonyms p hp).2.2.2]

/-! ## Types with a name of the grammar -/

/-- A type as it is read: its name is a canonical one of the grammar with single spaces between
words, and its numbers have not too many digits. -/
structure IsRegular (t : ColumnType) : Prop where
  name : IsTypeName t.name.toList
  squeezed : IsSqueezed t.name.toList
  canonical : canonicalName t.name = t.name
  short : ∀ m ∈ t.modifiers, (Nat.toDigits 10 m).length ≤ digitLimit

/-- The printed form of a type with numbers. -/
theorem display_eq {t : ColumnType} (h : t.modifiers ≠ []) : t.display =
    String.ofList (t.name.toList ++
      '(' :: ([','].intercalate (t.modifiers.map (Nat.toDigits 10)) ++ [')'])) := by
  rw [display, if_neg (by simpa using h), ← String.toList_inj]
  simp [String.toList_intercalate, Function.comp_def]

/-- A type with a name of the grammar is printed and read again as the same type. -/
theorem IsRegular.parse_display {t : ColumnType} (h : IsRegular t) : parse t.display = .ok t := by
  have hname : canonicalName (String.ofList (joinWords (words (t.name.toList ++ [])))) =
      t.name := by
    rw [List.append_nil, joinWords_words h.squeezed, String.ofList_toList, h.canonical]
  by_cases hnil : t.modifiers = []
  · have hnormal := normalize_of_isSqueezed h.squeezed fun c hc =>
      (isLowered_of_isNameChar (h.name.chars c hc)).1
    rw [String.ofList_toList] at hnormal
    have htext : IsTypeText t.name.toList [] [] (normalize t.name) := by
      rw [hnormal]
      exact isTypeText_name h.name
    rw [display, if_pos (by simp [hnil]), parse_of_isTypeText htext, hname]
    exact congrArg (fun ms => Except.ok (ColumnType.mk t.name ms)) hnil.symm
  · have hchars : ∀ c ∈ [','].intercalate (t.modifiers.map (Nat.toDigits 10)),
        Spelling.isNumbersChar c = true ∧ c ≠ ' ' := fun c hc => isNumbersChar_intercalate hc
    have hnormal := normalize_numbers h.name h.squeezed hchars
    rw [← display_eq hnil] at hnormal
    have htext : IsTypeText t.name.toList ([','].intercalate (t.modifiers.map (Nat.toDigits 10))) []
        (normalize t.display) := by
      rw [hnormal]
      have htext := @isTypeText_numbers _ _ none h.name (fun c hc => (hchars c hc).1) nofun
      exact htext
    have hnumbers := readModifiers_of_digits
      (List.filter_eq_self.mpr fun c hc => bne_iff_ne.mpr (hchars c hc).2) h.short
    rw [parse_of_isTypeText htext, hname, hnumbers]
    rfl

/-- What is read of a text that is written as a type has a name of the grammar. -/
theorem isRegular_of_isTypeText {spec : String} {name numbers zone : List Char} {t : ColumnType}
    (htext : IsTypeText name numbers zone (normalize spec)) (h : parse spec = .ok t) :
    IsRegular t ∧ t.name = canonicalName (String.ofList (joinWords (words (name ++ zone)))) ∧
      readModifiers numbers = .ok t.modifiers := by
  rw [parse_of_isTypeText htext] at h
  obtain ⟨hname, hnumbers, clause, rfl, hclause⟩ :=
    htext.exists_zoneText (isSqueezed_normalize spec)
  cases hread : readModifiers numbers with
  | error fault =>
    rw [hread] at h
    cases h
  | ok ms =>
    rw [hread] at h
    cases h
    refine ⟨?_, rfl, rfl⟩
    have hshort := length_toDigits_of_readModifiers hnumbers hread
    have hwritten := (hname.append (isNameChar_zoneText hclause)).joinWords_words
    rcases canonicalName_eq_or (String.ofList (joinWords (words (name ++ zoneText clause))))
      with hsame | ⟨p, hp, -, hsame⟩
    · exact ⟨by simpa [hsame] using hwritten,
        by simpa [hsame] using isSqueezed_joinWords fun _ => isWord_of_mem_words,
        canonicalName_canonicalName _, hshort⟩
    · obtain ⟨-, hgrammar, hsqueezed, hcanonical⟩ := isTypeName_synonyms p hp
      exact ⟨by simpa [hsame] using hgrammar, by simpa [hsame] using hsqueezed,
        canonicalName_canonicalName _, hshort⟩

/-- What is not written as a type is its own name, which is canonical. -/
theorem parse_display_of_not_isTypeText {spec : String}
    (h : ∀ name numbers zone, ¬IsTypeText name numbers zone (normalize spec)) :
    parse (String.ofList (normalize spec)) = .ok ⟨String.ofList (normalize spec), []⟩ ∧
      canonicalName (String.ofList (normalize spec)) = String.ofList (normalize spec) := by
  have hnormal : normalize (String.ofList (normalize spec)) = normalize spec :=
    normalize_of_isSqueezed (isSqueezed_normalize spec) fun _ => isLowered_of_mem_normalize
  refine ⟨?_, ?_⟩
  · have hkept := parse_of_not_isTypeText (hnormal.symm ▸ h)
    rwa [hnormal] at hkept
  · refine (canonicalName_eq_or _).resolve_right fun ⟨p, hp, hname, _⟩ => ?_
    have htext := isTypeText_name (isTypeName_synonyms p hp).1
    rw [hname, String.toList_ofList] at htext
    exact h _ _ _ htext

/-- Every type that can be read is printed and read again as the same type, and canonical names are
left alone. What is written as a type is read under the canonical name of the words of its name and
of its time zone clause, which may stand behind the numbers, and with its numbers. Any other text is
kept, in lower case and with single spaces. -/
theorem printed_types_read_back :
    (∀ name, canonicalName (canonicalName name) = canonicalName name) ∧
      ∀ spec, isReadable spec = true → ∃ t, parse spec = .ok t ∧ parse t.display = .ok t ∧
        canonicalName t.name = t.name ∧
        (∀ name numbers zone, IsTypeText name numbers zone (normalize spec) →
          t.name = canonicalName (String.ofList (joinWords (words (name ++ zone)))) ∧
            readModifiers numbers = .ok t.modifiers) ∧
        ((∀ name numbers zone, ¬IsTypeText name numbers zone (normalize spec)) →
          t = ⟨String.ofList (normalize spec), []⟩) := by
  refine ⟨canonicalName_canonicalName, fun spec hspec => ?_⟩
  obtain ⟨t, ht⟩ := isReadable_iff.mp hspec
  by_cases htext : ∃ name numbers zone, IsTypeText name numbers zone (normalize spec)
  · obtain ⟨name, numbers, zone, htext⟩ := htext
    have hregular := (isRegular_of_isTypeText htext ht).1
    exact ⟨t, ht, hregular.parse_display, hregular.canonical,
      fun name numbers zone htext => (isRegular_of_isTypeText htext ht).2,
      fun hnone => absurd htext (hnone name numbers zone)⟩
  · have hnone : ∀ name numbers zone, ¬IsTypeText name numbers zone (normalize spec) :=
      fun name numbers zone h => htext ⟨name, numbers, zone, h⟩
    obtain ⟨hagain, hcanonical⟩ := parse_display_of_not_isTypeText hnone
    exact ⟨_, parse_of_not_isTypeText hnone, hagain, hcanonical,
      fun name numbers zone h => absurd h (hnone name numbers zone), fun _ => rfl⟩

/-- A clause behind the numbers becomes a part of the name, and numbers that are none are kept. -/
theorem printed_types_read_back_timeZone :
    (∃ t, parse "TimeStamp (3)  WITH time zone" = .ok t ∧ t = ⟨"timestamptz", [3]⟩ ∧
        parse t.display = .ok t) ∧
      ∃ t, parse "Geometry(Point,  4326)" = .ok t ∧ t = ⟨"geometry(point, 4326)", []⟩ ∧
        parse t.display = .ok t := by
  constructor
  · obtain ⟨t, ht, hdisplay, -⟩ :=
      printed_types_read_back.2 "TimeStamp (3)  WITH time zone" (by rfl)
    exact ⟨t, ht, (Except.ok.inj ht).symm, hdisplay⟩
  · obtain ⟨t, ht, hdisplay, -⟩ := printed_types_read_back.2 "Geometry(Point,  4326)" (by rfl)
    exact ⟨t, ht, (Except.ok.inj ht).symm, hdisplay⟩

end MigrationSafety.ColumnType
