import Mathlib.Data.List.Chain
import Mathlib.Data.List.Infix
import MigrationSafety.Text.Blank

/-!
# Words and gaps

A text is made of words and of the gaps between them. Its words joined by single spaces are a
normal form: such a text has single spaces for gaps and none at its ends, and is left as it is when
it is taken apart and joined again.

* `words_append_blank`: the words before a blank, and those behind it;
* `IsSqueezed`: words with single spaces between them;
* `isSqueezed_joinWords`, `joinWords_words`: what words are joined to, and what joining leaves
  alone.
-/

namespace MigrationSafety.Text

/-- Blanks and nothing else. -/
def IsGap (cs : List Char) : Prop :=
  ∀ c ∈ cs, isBlank c = true

/-- No blanks. -/
def IsSolid (cs : List Char) : Prop :=
  ∀ c ∈ cs, isBlank c = false

instance (cs : List Char) : Decidable (IsGap cs) :=
  decidable_of_iff (cs.all isBlank = true) List.all_eq_true

/-- A word: at least one letter, and no blanks. -/
structure IsWord (w : List Char) : Prop where
  ne_nil : w ≠ []
  solid : IsSolid w

/-- Words with single spaces between them. -/
def joinWords (ws : List (List Char)) : List Char :=
  [' '].intercalate ws

theorem isBlank_space : isBlank ' ' = true := by decide

theorem filter_eq_nil_of_spaces {gap : List Char} (h : ∀ c ∈ gap, c = ' ') :
    gap.filter (· != ' ') = [] :=
  List.filter_eq_nil_iff.mpr fun c hc => by simp [h c hc]

theorem ne_space_of_not_isBlank {c : Char} (h : isBlank c = false) : c ≠ ' ' := by
  rintro rfl
  exact absurd h (by decide)

/-! ## Words of a text -/

theorem wordsFrom_nil {word : List Char} (hne : word ≠ []) :
    wordsFrom word [] = [word.reverse] := by
  rw [wordsFrom, if_neg (by simpa using hne)]

theorem wordsFrom_cons_solid {c : Char} (hc : isBlank c = false) (word rest : List Char) :
    wordsFrom word (c :: rest) = wordsFrom (c :: word) rest := by
  rw [wordsFrom, if_neg (by simp [hc])]

theorem wordsFrom_cons_blank {c : Char} (hc : isBlank c = true) (word rest : List Char) :
    wordsFrom word (c :: rest) = wordsFrom word [] ++ words rest := by
  simp only [wordsFrom, if_pos hc]
  split <;> rfl

theorem wordsFrom_solid_append {w : List Char} (hw : IsSolid w) (word rest : List Char) :
    wordsFrom word (w ++ rest) = wordsFrom (w.reverse ++ word) rest := by
  induction w generalizing word with
  | nil => rfl
  | cons c w ih =>
    obtain ⟨hc, hw⟩ := List.forall_mem_cons.mp hw
    rw [List.cons_append, wordsFrom_cons_solid hc, ih hw]
    simp

/-- A word ends at a blank. -/
theorem wordsFrom_append_blank {d : Char} (hd : isBlank d = true) (word cs rest : List Char) :
    wordsFrom word (cs ++ d :: rest) = wordsFrom word cs ++ words rest := by
  induction cs generalizing word with
  | nil => exact wordsFrom_cons_blank hd word rest
  | cons c cs ih =>
    rw [List.cons_append]
    cases hc : isBlank c with
    | true =>
      rw [wordsFrom_cons_blank hc, wordsFrom_cons_blank hc, words, words, ih, List.append_assoc]
    | false => rw [wordsFrom_cons_solid hc, wordsFrom_cons_solid hc, ih]

/-- The words before a blank, and those behind it. -/
theorem words_append_blank {d : Char} (hd : isBlank d = true) (cs rest : List Char) :
    words (cs ++ d :: rest) = words cs ++ words rest :=
  wordsFrom_append_blank hd [] cs rest

theorem words_cons_blank {d : Char} (hd : isBlank d = true) (rest : List Char) :
    words (d :: rest) = words rest :=
  words_append_blank hd [] rest

theorem words_gap_append {gap : List Char} (h : IsGap gap) (cs : List Char) :
    words (gap ++ cs) = words cs := by
  induction gap with
  | nil => rfl
  | cons d gap ih =>
    obtain ⟨hd, hgap⟩ := List.forall_mem_cons.mp h
    rw [List.cons_append, words_cons_blank hd, ih hgap]

theorem words_gap {gap : List Char} (h : IsGap gap) : words gap = [] := by
  have hwords := words_gap_append h []
  rwa [List.append_nil] at hwords

theorem words_append_gap {gap : List Char} (h : IsGap gap) (cs : List Char) :
    words (cs ++ gap) = words cs := by
  cases gap with
  | nil => rw [List.append_nil]
  | cons d gap =>
    obtain ⟨hd, hgap⟩ := List.forall_mem_cons.mp h
    rw [words_append_blank hd, words_gap hgap, List.append_nil]

/-- A word that begins a text is what has been read before the rest. -/
theorem words_gap_solid_append {gap w : List Char} (hgap : IsGap gap) (hw : IsSolid w)
    (rest : List Char) : words (gap ++ w ++ rest) = wordsFrom w.reverse rest := by
  rw [List.append_assoc, words_gap_append hgap, words, wordsFrom_solid_append hw, List.append_nil]

theorem words_of_isWord {w : List Char} (h : IsWord w) : words w = [w] := by
  have hword := words_gap_solid_append (List.forall_mem_nil _) h.solid []
  rw [List.nil_append, List.append_nil] at hword
  rw [hword, wordsFrom_nil (by simpa using h.ne_nil), List.reverse_reverse]

/-- Taking a text apart loses its blanks only. -/
theorem flatten_wordsFrom (word cs : List Char) :
    (wordsFrom word cs).flatten = word.reverse ++ cs.filter (!isBlank ·) := by
  induction cs generalizing word with
  | nil =>
    rw [wordsFrom]
    split
    · rename_i hempty
      simp [List.isEmpty_iff.mp hempty]
    · simp
  | cons c cs ih =>
    cases hc : isBlank c with
    | true =>
      rw [wordsFrom_cons_blank hc, List.flatten_append, words, ih, wordsFrom]
      split <;> simp_all
    | false => simp [wordsFrom_cons_solid hc, ih, hc]

theorem flatten_words (cs : List Char) : (words cs).flatten = cs.filter (!isBlank ·) :=
  flatten_wordsFrom [] cs

theorem nil_not_mem_wordsFrom (word cs : List Char) : [] ∉ wordsFrom word cs := by
  induction cs generalizing word with
  | nil =>
    rw [wordsFrom]
    split
    · exact List.not_mem_nil
    · simp_all
  | cons c cs ih =>
    cases hc : isBlank c with
    | true =>
      rw [wordsFrom_cons_blank hc, List.mem_append, wordsFrom, words]
      split <;> simp_all
    | false =>
      rw [wordsFrom_cons_solid hc]
      exact ih (c :: word)

theorem mem_of_mem_words {cs w : List Char} {c : Char} (hw : w ∈ words cs) (hc : c ∈ w) :
    c ∈ cs ∧ isBlank c = false := by
  have hmem : c ∈ (words cs).flatten := List.mem_flatten_of_mem hw hc
  rw [flatten_words, List.mem_filter, Bool.not_eq_true'] at hmem
  exact hmem

theorem isWord_of_mem_words {cs w : List Char} (h : w ∈ words cs) : IsWord w where
  ne_nil := by
    rintro rfl
    exact nil_not_mem_wordsFrom [] cs h
  solid _ hc := (mem_of_mem_words h hc).2

/-! ## Joined words -/

@[simp] theorem joinWords_nil : joinWords [] = [] := rfl

@[simp] theorem joinWords_singleton (w : List Char) : joinWords [w] = w := by
  simp [joinWords]

theorem joinWords_cons {ws : List (List Char)} (hne : ws ≠ []) (w : List Char) :
    joinWords (w :: ws) = w ++ ' ' :: joinWords ws := by
  rw [joinWords, List.intercalate_cons_of_ne_nil hne, List.append_assoc]
  rfl

theorem joinWords_append {ws ws' : List (List Char)} (hne : ws ≠ []) (hne' : ws' ≠ []) :
    joinWords (ws ++ ws') = joinWords ws ++ ' ' :: joinWords ws' := by
  induction ws with
  | nil => exact absurd rfl hne
  | cons w ws ih =>
    cases ws with
    | nil => rw [List.singleton_append, joinWords_cons hne', joinWords_singleton]
    | cons w' ws =>
      have hne := List.cons_ne_nil w' ws
      rw [List.cons_append, joinWords_cons (List.append_ne_nil_of_left_ne_nil hne ws'), ih hne,
        joinWords_cons hne, List.append_assoc, List.cons_append]

/-- Words with single spaces between them: every blank is a space, none stands at an end, and no two
stand side by side. -/
structure IsSqueezed (cs : List Char) : Prop where
  blank : ∀ c ∈ cs, isBlank c = true → c = ' '
  head : cs.head? ≠ some ' '
  last : cs.getLast? ≠ some ' '
  single : cs.IsChain fun c d => c ≠ ' ' ∨ d ≠ ' '

namespace IsSqueezed

variable {cs part gap : List Char}

/-! ## Gaps of a squeezed text -/

theorem of_prefix (h : IsSqueezed cs) (hpart : part <+: cs) (hlast : part.getLast? ≠ some ' ') :
    IsSqueezed part where
  blank c hc := h.blank c (hpart.subset hc)
  head hhead := by
    obtain ⟨rest, rfl⟩ := hpart
    exact h.head (by rw [List.head?_append, hhead, Option.some_or])
  last := hlast
  single := h.single.prefix hpart

theorem of_suffix (h : IsSqueezed cs) (hpart : part <:+ cs) (hhead : part.head? ≠ some ' ') :
    IsSqueezed part where
  blank c hc := h.blank c (hpart.subset hc)
  head := hhead
  last hlast := by
    obtain ⟨before, rfl⟩ := hpart
    exact h.last (by rw [List.getLast?_append, hlast, Option.some_or])
  single := h.single.suffix hpart

theorem eq_nil_of_prefix (h : IsSqueezed cs) (hgap : IsGap gap) (hpart : gap <+: cs) :
    gap = [] := by
  cases gap with
  | nil => rfl
  | cons d gap =>
    obtain ⟨rest, rfl⟩ := hpart
    have hd := h.blank d (.head _) (hgap d (.head _))
    exact absurd (congrArg some hd) h.head

theorem eq_nil_of_suffix (h : IsSqueezed cs) (hgap : IsGap gap) (hpart : gap <:+ cs) :
    gap = [] := by
  obtain ⟨before, rfl⟩ := hpart
  cases hlast : gap.getLast? with
  | none => exact List.getLast?_eq_none_iff.mp hlast
  | some d =>
    have hmem := List.mem_of_getLast? hlast
    have hd := h.blank d (List.mem_append_right before hmem) (hgap d hmem)
    exact absurd (by rw [List.getLast?_append, hlast, Option.some_or, hd]) h.last

/-- A gap is a single space. -/
theorem eq_space_of_infix (h : IsSqueezed cs) (hgap : IsGap gap) (hpart : gap <:+: cs) :
    gap = [] ∨ gap = [' '] := by
  have hspace : ∀ c ∈ gap, c = ' ' := fun c hc => h.blank c (hpart.subset hc) (hgap c hc)
  match gap with
  | [] => exact .inl rfl
  | [c] => exact .inr (by rw [hspace c (.head _)])
  | c :: d :: _ =>
    have hchain := List.IsChain.infix h.single hpart
    rw [hspace c (.head _), hspace d (.tail _ (.head _))] at hchain
    exact absurd (List.isChain_cons_cons.mp hchain).1 (by simp)

/-- A space stands between two words. -/
theorem of_append_space (h : IsSqueezed (cs ++ ' ' :: part)) :
    cs ≠ [] ∧ part ≠ [] ∧ IsSqueezed part := by
  have hpart : part.head? ≠ some ' ' := fun hhead => by
    obtain ⟨part, rfl⟩ := List.head?_eq_some_iff.mp hhead
    have hpair := (List.isChain_append_cons_cons.mp h.single).2.1
    exact absurd hpair (by simp)
  refine ⟨?_, ?_, h.of_suffix ⟨cs ++ [' '], by simp⟩ hpart⟩
  · rintro rfl
    exact h.head rfl
  · rintro rfl
    exact h.last (by simp)

/-! ## Making squeezed texts -/

theorem append_space (h : IsSqueezed cs) (hne : cs ≠ []) (hpart : IsSqueezed part)
    (hne' : part ≠ []) : IsSqueezed (cs ++ ' ' :: part) where
  blank c hc := by
    rw [List.mem_append, List.mem_cons] at hc
    exact hc.elim (h.blank c) (·.elim (fun hc _ => hc) (hpart.blank c))
  head := by
    obtain ⟨c, cs, rfl⟩ := List.exists_cons_of_ne_nil hne
    exact h.head
  last := by
    obtain ⟨d, part, rfl⟩ := List.exists_cons_of_ne_nil hne'
    rw [List.getLast?_append, List.getLast?_cons_cons]
    simpa [List.getLast?_cons] using hpart.last
  single := by
    refine List.isChain_append.mpr ⟨h.single, List.isChain_cons.mpr ⟨fun d hd => .inr ?_,
      hpart.single⟩, fun c hc _ _ => .inl ?_⟩
    · rintro rfl
      exact hpart.head hd
    · rintro rfl
      exact h.last hc

theorem append_solid (h : IsSqueezed cs) (hne : cs ≠ []) (hpart : IsSolid part) :
    IsSqueezed (cs ++ part) where
  blank c hc hblank := by
    rcases List.mem_append.mp hc with hc | hc
    · exact h.blank c hc hblank
    · exact absurd hblank (by simp [hpart c hc])
  head := by
    obtain ⟨c, cs, rfl⟩ := List.exists_cons_of_ne_nil hne
    exact h.head
  last := by
    rw [List.getLast?_append]
    cases hlast : part.getLast? with
    | none => exact h.last
    | some d =>
      have hd := ne_space_of_not_isBlank (hpart d (List.mem_of_getLast? hlast))
      simpa using hd
  single := by
    have hchain : part.IsChain fun c d => c ≠ ' ' ∨ d ≠ ' ' := by
      refine (List.pairwise_of_forall_mem_list fun c hc d _ => .inl ?_).isChain
      exact ne_space_of_not_isBlank (hpart c hc)
    refine List.isChain_append.mpr ⟨h.single, hchain, fun _ _ d hd => .inr ?_⟩
    exact ne_space_of_not_isBlank (hpart d (List.mem_of_mem_head? hd))

theorem of_isWord (h : IsWord cs) : IsSqueezed cs := by
  obtain ⟨c, cs, rfl⟩ := List.exists_cons_of_ne_nil h.ne_nil
  obtain ⟨hc, hcs⟩ := List.forall_mem_cons.mp h.solid
  have hhead : IsSqueezed [c] := ⟨fun d hd hblank => by simp_all,
    by simpa using ne_space_of_not_isBlank hc, by simpa using ne_space_of_not_isBlank hc, by simp⟩
  exact hhead.append_solid (by simp) hcs

end IsSqueezed

theorem mem_intersperse {α : Type} {sep a : α} {as : List α} (h : a ∈ as.intersperse sep) :
    a = sep ∨ a ∈ as := by
  induction as with
  | nil => cases h
  | cons b as ih =>
    cases as with
    | nil => exact .inr h
    | cons c as =>
      rw [List.intersperse_cons_cons, List.mem_cons, List.mem_cons] at h
      rcases h with h | h | h
      · exact .inr (h ▸ .head _)
      · exact .inl h
      · exact (ih h).imp_right (.tail b)

theorem mem_intercalate {sep c : Char} {parts : List (List Char)}
    (h : c ∈ [sep].intercalate parts) : c = sep ∨ ∃ part ∈ parts, c ∈ part := by
  obtain ⟨part, hpart, hc⟩ := List.mem_flatten.mp h
  rcases mem_intersperse hpart with rfl | hpart
  · exact .inl (List.mem_singleton.mp hc)
  · exact .inr ⟨part, hpart, hc⟩

theorem mem_joinWords {ws : List (List Char)} {c : Char} (h : c ∈ joinWords ws) :
    c = ' ' ∨ ∃ w ∈ ws, c ∈ w :=
  mem_intercalate h

theorem joinWords_ne_nil {ws : List (List Char)} (h : ∀ w ∈ ws, IsWord w) (hne : ws ≠ []) :
    joinWords ws ≠ [] := by
  obtain ⟨w, ws, rfl⟩ := List.exists_cons_of_ne_nil hne
  have hw := (h w (.head _)).ne_nil
  cases ws with
  | nil => rwa [joinWords_singleton]
  | cons w' ws => simp [joinWords_cons]

/-- Joined words have single spaces between them. -/
theorem isSqueezed_joinWords {ws : List (List Char)} (h : ∀ w ∈ ws, IsWord w) :
    IsSqueezed (joinWords ws) := by
  induction ws with
  | nil => exact ⟨nofun, nofun, nofun, .nil⟩
  | cons w ws ih =>
    obtain ⟨hw, hws⟩ := List.forall_mem_cons.mp h
    by_cases hne : ws = []
    · rw [hne, joinWords_singleton]
      exact .of_isWord hw
    · rw [joinWords_cons hne]
      exact (IsSqueezed.of_isWord hw).append_space hw.ne_nil (ih hws) (joinWords_ne_nil hws hne)

/-- What is read of a squeezed text and what is left of it are joined to the text. -/
theorem joinWords_wordsFrom {word cs : List Char} (hword : IsSolid word)
    (h : IsSqueezed (word.reverse ++ cs)) :
    joinWords (wordsFrom word cs) = word.reverse ++ cs := by
  induction cs generalizing word with
  | nil =>
    rw [wordsFrom, List.append_nil]
    split
    · rename_i hempty
      rw [List.isEmpty_iff.mp hempty]
      rfl
    · rw [joinWords_singleton]
  | cons c cs ih =>
    cases hc : isBlank c with
    | false =>
      rw [wordsFrom_cons_solid hc, ih (List.forall_mem_cons.mpr ⟨hc, hword⟩) (by simpa using h)]
      simp
    | true =>
      obtain rfl := h.blank c (by simp) hc
      obtain ⟨hread, hleft, hrest⟩ := h.of_append_space
      have hcs : joinWords (words cs) = cs := ih (List.forall_mem_nil _) hrest
      have hwords : words cs ≠ [] := fun hnil => by
        rw [hnil, joinWords_nil] at hcs
        exact hleft hcs.symm
      rw [wordsFrom_cons_blank hc, wordsFrom_nil (by simpa using hread), List.singleton_append,
        joinWords_cons hwords, hcs]

/-- Joining its words leaves a squeezed text alone. -/
theorem joinWords_words {cs : List Char} (h : IsSqueezed cs) : joinWords (words cs) = cs :=
  joinWords_wordsFrom nofun h

theorem isSqueezed_iff {cs : List Char} : IsSqueezed cs ↔ joinWords (words cs) = cs :=
  ⟨joinWords_words, fun h => h ▸ isSqueezed_joinWords fun _ => isWord_of_mem_words⟩

instance (cs : List Char) : Decidable (IsSqueezed cs) :=
  decidable_of_iff _ isSqueezed_iff.symm

/-- What is read already stands at the head of the first word. -/
theorem exists_wordsFrom_eq_cons {word : List Char} (hne : word ≠ []) (cs : List Char) :
    ∃ rest ws, wordsFrom word cs = (word.reverse ++ rest) :: ws := by
  induction cs generalizing word with
  | nil => exact ⟨[], [], by rw [wordsFrom_nil hne, List.append_nil]⟩
  | cons c cs ih =>
    cases hc : isBlank c with
    | true =>
      refine ⟨[], words cs, ?_⟩
      rw [wordsFrom_cons_blank hc, wordsFrom_nil hne, List.append_nil, List.singleton_append]
    | false =>
      obtain ⟨rest, ws, hwords⟩ := ih (List.cons_ne_nil c word)
      exact ⟨c :: rest, ws, by simp [wordsFrom_cons_solid hc, hwords]⟩

/-- Joined words begin as the text does, unless it begins with a blank. -/
theorem head?_joinWords_words {c : Char} (hc : isBlank c = false) (cs : List Char) :
    (joinWords (words (c :: cs))).head? = some c := by
  obtain ⟨rest, ws, hwords⟩ := exists_wordsFrom_eq_cons (List.cons_ne_nil c []) cs
  rw [words, wordsFrom_cons_solid hc, hwords]
  by_cases hnil : ws = []
  · simp [hnil]
  · simp [joinWords_cons hnil]

end MigrationSafety.Text
