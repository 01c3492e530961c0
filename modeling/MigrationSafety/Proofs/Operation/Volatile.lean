import Mathlib.Data.List.TakeWhile
import MigrationSafety.Operation.Volatile
import MigrationSafety.Proofs.Text.Case

/-!
# What counts as a volatile call

An expression is volatile exactly if it splits around a call: the name of a volatile function, in
any case, at the head of a word, then blanks only, then an opening parenthesis. The search tries
each place and each name, so that a name which starts with another one (`uuid_short` and `uuid`,
`random` and `rand`) is found whichever of the two is tried first.

* `startsWithCall_iff`: the call at the head of a text;
* `callsOneOf`: the search for calls of any functions, `holdsCall_eq` for the volatile ones;
* `callsOneOf_iff`: what the search finds, and so, by `callsOneOf_congr`, that only the members of
  the table count;
* `isVolatile_iff_exists`, `isVolatile_append`: the expressions that are volatile, and that they
  stay so when text is added;
* `isVolatile_iff_split`: the same, for any order of the table.
-/

namespace MigrationSafety.Text

/-- A sign that is not blank comes first after the blanks exactly if only blanks stand before it. -/
theorem head?_dropWhile_isBlank {c : Char} (hc : isBlank c = false) {cs : List Char} :
    (cs.dropWhile isBlank).head? = some c ↔
      ∃ w s, cs = w ++ c :: s ∧ ∀ d ∈ w, isBlank d = true := by
  constructor
  · intro h
    obtain ⟨s, hs⟩ := List.head?_eq_some_iff.mp h
    refine ⟨cs.takeWhile isBlank, s, ?_, fun d => List.mem_takeWhile_imp⟩
    rw [← hs, List.takeWhile_append_dropWhile]
  · intro ⟨w, s, hcs, hw⟩
    rw [hcs, List.dropWhile_append_of_pos hw, List.dropWhile_cons_of_neg (by simp [hc])]
    rfl

end MigrationSafety.Text

namespace MigrationSafety.Operation

/-- A call stands at the head of a text. -/
theorem startsWithCall_iff {cs : List Char} {function : String} :
    startsWithCall cs function = true ↔
      ∃ f w s, cs = f ++ w ++ '(' :: s ∧ f.map Text.foldLetter = function.toList ∧
        ∀ d ∈ w, Text.isBlank d = true := by
  have hparen : Text.isBlank '(' = false := by decide
  constructor
  · intro h
    unfold startsWithCall at h
    split at h
    · next rest hrest =>
      obtain ⟨f, hcs, hf⟩ := Text.startsWithFolded?_eq_some_iff.mp hrest
      obtain ⟨w, s, hws, hw⟩ := (Text.head?_dropWhile_isBlank hparen).mp (beq_iff_eq.mp h)
      exact ⟨f, w, s, by rw [hcs, hws, List.append_assoc], hf, hw⟩
    · exact absurd h (by simp)
  · intro ⟨f, w, s, hcs, hf, hw⟩
    have hrest : Text.startsWithFolded? function.toList cs = some (w ++ '(' :: s) :=
      Text.startsWithFolded?_eq_some_iff.mpr ⟨f, by rw [hcs, List.append_assoc], hf⟩
    simp only [startsWithCall, hrest, beq_iff_eq]
    exact (Text.head?_dropWhile_isBlank hparen).mpr ⟨w, s, rfl, hw⟩

/-! ## The search -/

/-- Whether a call of one of the functions stands somewhere in a text; `inWord` tells whether the
character before it may stand inside a word. -/
def callsOneOf (functions : List String) (inWord : Bool) : List Char → Bool
  | [] => false
  | c :: rest =>
    (!inWord && functions.any (startsWithCall (c :: rest))) ||
      callsOneOf functions (Text.isWord c) rest

theorem holdsCall_eq {inWord : Bool} {cs : List Char} :
    holdsCall inWord cs = callsOneOf volatileFunctions inWord cs := by
  induction cs generalizing inWord with
  | nil => rfl
  | cons c cs ih => rw [holdsCall, callsOneOf, ih]

/-- Whether the last character of a text may stand inside a word; `inWord` tells it for the
character before the text. -/
def endsInWord (inWord : Bool) (cs : List Char) : Bool :=
  cs.foldl (fun _ c => Text.isWord c) inWord

theorem endsInWord_nil {inWord : Bool} : endsInWord inWord [] = inWord :=
  rfl

theorem endsInWord_cons (inWord : Bool) (c : Char) (cs : List Char) :
    endsInWord inWord (c :: cs) = endsInWord (Text.isWord c) cs :=
  rfl

/-- A text ends outside a word if it is empty, or if its last character is no word character. -/
theorem endsInWord_eq_false_iff {cs : List Char} :
    endsInWord false cs = false ↔ cs = [] ∨ ∃ p c, cs = p ++ [c] ∧ Text.isWord c = false := by
  rcases List.eq_nil_or_concat cs with rfl | ⟨p, c, rfl⟩
  · simp [endsInWord_nil]
  · have hlast : endsInWord false (p ++ [c]) = Text.isWord c := by
      rw [endsInWord, List.foldl_append, List.foldl_cons, List.foldl_nil]
    rw [List.concat_eq_append, hlast]
    constructor
    · exact fun hc => .inr ⟨p, c, rfl, hc⟩
    · rintro (hnil | ⟨q, d, hsame, hd⟩)
      · exact absurd hnil (List.append_ne_nil_of_right_ne_nil p (List.cons_ne_nil c []))
      · rwa [(List.append_singleton_inj.mp hsame).2]

/-- The text splits around a call of one of the functions: what stands before the call ends outside
a word, the name is written in any case, and only blanks stand before the parenthesis. -/
def HoldsCallOf (functions : List String) (inWord : Bool) (cs : List Char) : Prop :=
  ∃ p f w s, cs = p ++ f ++ w ++ '(' :: s ∧ endsInWord inWord p = false ∧
    (∃ name ∈ functions, f.map Text.foldLetter = name.toList) ∧ ∀ d ∈ w, Text.isBlank d = true

variable {functions : List String} {inWord : Bool}

/-- A call that the text splits around stands at its head or in what follows the first character. -/
theorem holdsCallOf_cons {c : Char} {cs : List Char} :
    HoldsCallOf functions inWord (c :: cs) ↔
      (inWord = false ∧ ∃ name ∈ functions, startsWithCall (c :: cs) name = true) ∨
        HoldsCallOf functions (Text.isWord c) cs := by
  constructor
  · intro ⟨p, f, w, s, hcs, hp, ⟨name, hname, hf⟩, hw⟩
    match p with
    | [] =>
      refine .inl ⟨hp, name, hname, ?_⟩
      exact startsWithCall_iff.mpr ⟨f, w, s, by rw [hcs, List.nil_append], hf, hw⟩
    | d :: p =>
      obtain ⟨rfl, rfl⟩ := List.cons.inj hcs
      rw [endsInWord_cons] at hp
      exact .inr ⟨p, f, w, s, rfl, hp, ⟨name, hname, hf⟩, hw⟩
  · intro h
    rcases h with ⟨hword, name, hname, hcall⟩ | ⟨p, f, w, s, rfl, hp, hname, hw⟩
    · obtain ⟨f, w, s, hcs, hf, hw⟩ := startsWithCall_iff.mp hcall
      exact ⟨[], f, w, s, by rw [hcs, List.nil_append], hword, ⟨name, hname, hf⟩, hw⟩
    · rw [← endsInWord_cons inWord] at hp
      exact ⟨c :: p, f, w, s, by simp only [List.cons_append], hp, hname, hw⟩

/-- The search finds a call exactly if the text splits around one. -/
theorem callsOneOf_iff {cs : List Char} :
    callsOneOf functions inWord cs = true ↔ HoldsCallOf functions inWord cs := by
  -- What the search knows of the text before is whether that ends in a word.
  induction cs generalizing inWord with
  | nil => simp [callsOneOf, HoldsCallOf]
  | cons c cs ih =>
    rw [holdsCallOf_cons, callsOneOf, Bool.or_eq_true, Bool.and_eq_true, Bool.not_eq_true',
      List.any_eq_true, ih]

/-- The search depends on which functions are looked for, and not on their order. -/
theorem callsOneOf_congr {others : List String} (h : ∀ name, name ∈ functions ↔ name ∈ others)
    (cs : List Char) : callsOneOf functions inWord cs = callsOneOf others inWord cs := by
  rw [Bool.eq_iff_iff, callsOneOf_iff, callsOneOf_iff]
  simp only [HoldsCallOf, h]

theorem HoldsCallOf.append {cs : List Char} (h : HoldsCallOf functions inWord cs)
    (t : List Char) : HoldsCallOf functions inWord (cs ++ t) := by
  obtain ⟨p, f, w, s, rfl, hp, hname, hw⟩ := h
  exact ⟨p, f, w, s ++ t, by simp only [List.append_assoc, List.cons_append], hp, hname, hw⟩

theorem isVolatile_iff {e : String} :
    isVolatile e = true ↔ HoldsCallOf volatileFunctions false e.toList := by
  rw [isVolatile, holdsCall_eq, callsOneOf_iff]

/-- An expression is volatile exactly if it splits around a call of a volatile function. -/
theorem isVolatile_iff_exists {e : String} :
    isVolatile e = true ↔
      ∃ p f w s : String, e = p ++ f ++ w ++ "(" ++ s ∧
        (∃ name ∈ volatileFunctions, f.toList.map Text.foldLetter = name.toList) ∧
        (p = "" ∨ ∃ q c, p = q ++ String.singleton c ∧ Text.isWord c = false) ∧
        ∀ d ∈ w.toList, Text.isBlank d = true := by
  rw [isVolatile_iff]
  constructor
  · intro ⟨p, f, w, s, he, hp, hname, hw⟩
    refine ⟨.ofList p, .ofList f, .ofList w, .ofList s, ?_, by simpa using hname, ?_,
      by simpa using hw⟩
    · apply String.toList_inj.mp
      simp [he]
    · rcases endsInWord_eq_false_iff.mp hp with rfl | ⟨q, c, rfl, hc⟩
      · exact .inl rfl
      · exact .inr ⟨.ofList q, c, by apply String.toList_inj.mp; simp, hc⟩
  · intro ⟨p, f, w, s, he, hname, hp, hw⟩
    refine ⟨p.toList, f.toList, w.toList, s.toList, by simp [he], ?_, hname, hw⟩
    apply endsInWord_eq_false_iff.mpr
    rcases hp with rfl | ⟨q, c, rfl, hc⟩
    · exact .inl rfl
    · exact .inr ⟨q.toList, c, by simp, hc⟩

theorem isVolatile_append {e : String} (h : isVolatile e = true) (t : String) :
    isVolatile (e ++ t) = true := by
  rw [isVolatile_iff, String.toList_append]
  exact (isVolatile_iff.mp h).append t.toList

/-- An expression is volatile exactly if it splits into what stands before a call, the name of a
volatile function in any case, blanks only, an opening parenthesis and the rest, where the part
before the name is empty or ends with a character that is no word character. The order in which the
functions are tried has no part in it, and no text that follows takes the call away. -/
theorem isVolatile_iff_split (e : String) :
    (isVolatile e = true ↔
      ∃ p f w s : String, e = p ++ f ++ w ++ "(" ++ s ∧
        (∃ name ∈ volatileFunctions, f.toList.map Text.foldLetter = name.toList) ∧
        (p = "" ∨ ∃ q c, p = q ++ String.singleton c ∧ Text.isWord c = false) ∧
        ∀ d ∈ w.toList, Text.isBlank d = true) ∧
    (∀ functions : List String, functions.Perm volatileFunctions →
      callsOneOf functions false e.toList = isVolatile e) ∧
    (isVolatile e = true → ∀ t, isVolatile (e ++ t) = true) := by
  refine ⟨isVolatile_iff_exists, fun functions h => ?_, isVolatile_append⟩
  rw [isVolatile, holdsCall_eq]
  exact callsOneOf_congr (fun _ => h.mem_iff) _

/-- A call in mixed case, with a blank before its parenthesis, of a function whose name starts with
the name of another one. -/
theorem isVolatile_iff_split_uuidShort :
    isVolatile "1 + Uuid_SHORT ()" = true ∧
    callsOneOf volatileFunctions.reverse false "1 + Uuid_SHORT ()".toList = true ∧
    isVolatile ("1 + Uuid_SHORT ()" ++ " % 7") = true := by
  have hvolatile : isVolatile "1 + Uuid_SHORT ()" = true := by decide
  obtain ⟨-, hperm, happend⟩ := isVolatile_iff_split "1 + Uuid_SHORT ()"
  have hreverse := hperm volatileFunctions.reverse (List.reverse_perm volatileFunctions)
  exact ⟨hvolatile, hreverse.trans hvolatile, happend hvolatile " % 7"⟩

end MigrationSafety.Operation
