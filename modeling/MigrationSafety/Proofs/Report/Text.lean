import Mathlib.Data.List.Chain
import MigrationSafety.Proofs.Outcome
import MigrationSafety.Proofs.Value.Equality
import MigrationSafety.Report.Text

/-!
# The sections of the text of a report

The results of a report are written under headings. A heading is a name, and a new one is written
where the name changes, so neighbouring sections with one name come out under a single heading.

* `Result.entry`: the lines about a result;
* `Report.Section`, `Section.lines`: a name and the results under it, as they are written;
* `Report.merged`: sections with neighbours of one name put together, the same sections if there
  are no such neighbours (`merged_of_parted`);
* `resultLines_sections`, `toText_sections`: the text of a report whose results are those of the
  sections;
* `layout_merged_eq_iff`: it is the text with a heading for every section exactly if no neighbours
  have one name.
-/

namespace MigrationSafety

/-- The lines about a result: its mark and description, and below, unless it is safe and only the
others are to be explained, the rationale and what can be done about it. -/
def Result.entry (verbose : Bool) (x : Result) (description : String) : List String :=
  s!"  [{x.verdict.status.mark}] {description}{assuredNote x.verdict.assured}" ::
    if x.verdict.status = .safe ∧ verbose = false then []
    else
      reportParagraph x.verdict.rationale ::
        if x.verdict.remedy = .nothing then []
        else [s!"        remediation: {x.verdict.remedy.name}"]

theorem Result.lines_of_describe {x : Result} {description : String}
    (h : x.operation.describe = .ok description) (verbose : Bool) :
    x.lines verbose = .ok (x.entry verbose description) := by
  rw [Result.lines, h]
  simp only [bind, Except.bind, Result.entry, Bool.and_eq_true, beq_iff_eq, Bool.not_eq_true']
  split <;> rfl

namespace Report

/-- A heading of a report, and the results of migrations with that name under it. -/
structure Section where
  name : String
  results : List Result
  nonempty : results ≠ []
  named : ∀ x ∈ results, x.ref.name = .text name

variable {entry : Result → List String} {verbose : Bool}

/-- The lines of a section, where `entry` gives those about a result. -/
def Section.lines (entry : Result → List String) (s : Section) : List String :=
  s!"{s.name}:" :: s.results.flatMap entry

/-! ## Neighbours with one name -/

/-- Two sections with one name as one. -/
def Section.append (s t : Section) (h : s.name = t.name) : Section where
  name := s.name
  results := s.results ++ t.results
  nonempty := List.append_ne_nil_of_left_ne_nil s.nonempty t.results
  named x hx := by
    rcases List.mem_append.mp hx with hx | hx
    · exact s.named x hx
    · rw [h]
      exact t.named x hx

/-- A section before others, put together with the first of them if they have one name. -/
def Section.before (s : Section) : List Section → List Section
  | [] => [s]
  | t :: ts => if h : s.name = t.name then s.append t h :: ts else s :: t :: ts

/-- Sections with neighbours of one name put together. -/
def merged : List Section → List Section
  | [] => []
  | s :: rest => s.before (merged rest)

/-- No neighbours among the sections have one name. -/
def Parted (sections : List Section) : Prop :=
  (sections.map (·.name)).IsChain (· ≠ ·)

theorem Section.flatMap_results_before (s : Section) (rest : List Section) :
    (s.before rest).flatMap (·.results) = s.results ++ rest.flatMap (·.results) := by
  cases rest with
  | nil => rfl
  | cons t ts =>
    rw [Section.before]
    split
    · rw [List.flatMap_cons, List.flatMap_cons, ← List.append_assoc]
      rfl
    · rfl

/-- No result is lost, and none changes its place. -/
theorem flatMap_results_merged (sections : List Section) :
    (merged sections).flatMap (·.results) = sections.flatMap (·.results) := by
  induction sections with
  | nil => rfl
  | cons s rest ih => rw [merged, Section.flatMap_results_before, ih, List.flatMap_cons]

theorem Section.parted_before {s : Section} {rest : List Section} (h : Parted rest) :
    Parted (s.before rest) := by
  cases rest with
  | nil => exact .singleton _
  | cons t ts =>
    rw [Section.before]
    split
    · next hname =>
      rw [Parted, List.map_cons]
      show ((s.append t hname).name :: _).IsChain _
      rw [Section.append, hname]
      exact h
    · next hname => exact List.isChain_cons_cons.mpr ⟨hname, h⟩

theorem parted_merged (sections : List Section) : Parted (merged sections) := by
  induction sections with
  | nil => exact .nil
  | cons s rest ih => exact Section.parted_before ih

/-- Where no neighbours have one name, nothing is put together. -/
theorem merged_of_parted {sections : List Section} (h : Parted sections) :
    merged sections = sections := by
  induction sections with
  | nil => rfl
  | cons s rest ih =>
    rw [merged, ih (List.IsChain.tail h)]
    cases rest with
    | nil => rfl
    | cons t ts => rw [Section.before, dif_neg (List.isChain_cons_cons.mp h).1]

/-! ## The lines of results -/

/-- The first heading has no empty line before it. -/
theorem heading_null (name : String) : heading .null (.text name) = [s!"{name}:"] :=
  rfl

theorem equal_text_eq_false {new name : String} (h : new ≠ name) :
    (Value.text new).equal (.text name) = false := by
  rw [← Bool.not_eq_true, Value.equal_text_right, Value.text.injEq]
  exact h

theorem heading_text {new name : String} (h : new ≠ name) :
    heading (.text name) (.text new) = ["", s!"{new}:"] := by
  unfold heading
  rw [equal_text_eq_false h]
  rfl

/-- Results with the name of the result before them get no heading. -/
theorem resultLines_named {name : String} {xs rest : List Result} {below : List String}
    (hnamed : ∀ x ∈ xs, x.ref.name = .text name)
    (hentry : ∀ x ∈ xs, x.lines verbose = .ok (entry x))
    (hrest : resultLines verbose (.text name) rest = .ok below) :
    resultLines verbose (.text name) (xs ++ rest) = .ok (xs.flatMap entry ++ below) := by
  induction xs with
  | nil => exact hrest
  | cons x xs ih =>
    have hequal : x.ref.name.equal (.text name) = true :=
      Value.equal_text_right.mpr (hnamed x List.mem_cons_self)
    have hlater := ih (fun y hy => hnamed y (List.mem_cons_of_mem x hy))
      (fun y hy => hentry y (List.mem_cons_of_mem x hy))
    simp only [List.cons_append, resultLines, heading, hentry x List.mem_cons_self, hequal, if_true,
      hlater, bind, Except.bind, List.nil_append, List.flatMap_cons, List.append_assoc]

/-- The results of a section get a heading if the result before them has another name. -/
theorem resultLines_section {current : Value} {rest : List Result} {below : List String}
    (s : Section) (hcurrent : (Value.text s.name).equal current = false)
    (hentry : ∀ x ∈ s.results, x.lines verbose = .ok (entry x))
    (hrest : resultLines verbose (.text s.name) rest = .ok below) :
    resultLines verbose current (s.results ++ rest) =
      .ok (heading current (.text s.name) ++ s.results.flatMap entry ++ below) := by
  obtain ⟨x, xs, hxs⟩ := List.exists_cons_of_ne_nil s.nonempty
  have hnamed := s.named
  rw [hxs] at hnamed hentry ⊢
  have hname := hnamed x List.mem_cons_self
  have hlater := resultLines_named (fun y hy => hnamed y (List.mem_cons_of_mem x hy))
    (fun y hy => hentry y (List.mem_cons_of_mem x hy)) hrest
  simp only [List.cons_append, resultLines, hentry x List.mem_cons_self, hname, hcurrent,
    Bool.false_eq_true, if_false, hlater, bind, Except.bind, List.flatMap_cons, List.append_assoc]

/-- Sections after a section with another name, each with an empty line before it. -/
theorem resultLines_after {name : String} {sections : List Section}
    (hparted : (name :: sections.map (·.name)).IsChain (· ≠ ·))
    (hentry : ∀ s ∈ sections, ∀ x ∈ s.results, x.lines verbose = .ok (entry x)) :
    resultLines verbose (.text name) (sections.flatMap (·.results)) =
      .ok (sections.flatMap fun s => "" :: s.lines entry) := by
  induction sections generalizing name with
  | nil => rfl
  | cons s rest ih =>
    obtain ⟨hname, hparted⟩ := List.isChain_cons_cons.mp hparted
    have hnew := equal_text_eq_false (Ne.symm hname)
    have hrest := ih hparted fun t ht => hentry t (List.mem_cons_of_mem s ht)
    rw [List.flatMap_cons, resultLines_section s hnew (hentry s List.mem_cons_self) hrest,
      List.flatMap_cons, heading_text (Ne.symm hname)]
    rfl

theorem intercalate_cons_cons (sep l m : List String) (ls : List (List String)) :
    sep.intercalate (l :: m :: ls) = l ++ (sep ++ sep.intercalate (m :: ls)) := by
  simp [List.intercalate]

theorem intercalate_cons (sep l : List String) (ls : List (List String)) :
    sep.intercalate (l :: ls) = l ++ ls.flatMap (sep ++ ·) := by
  induction ls generalizing l with
  | nil => simp [List.intercalate]
  | cons m ls ih => rw [intercalate_cons_cons, ih, List.flatMap_cons, List.append_assoc]

/-- The results of sections of which no neighbours have one name are written section by section,
with an empty line between. -/
theorem resultLines_sections {sections : List Section} (hparted : Parted sections)
    (hentry : ∀ s ∈ sections, ∀ x ∈ s.results, x.lines verbose = .ok (entry x)) :
    resultLines verbose .null (sections.flatMap (·.results)) =
      .ok ([""].intercalate (sections.map (Section.lines entry))) := by
  cases sections with
  | nil => rfl
  | cons s rest =>
    have hrest := resultLines_after hparted fun t ht => hentry t (List.mem_cons_of_mem s ht)
    rw [List.flatMap_cons, resultLines_section s rfl (hentry s List.mem_cons_self) hrest,
      List.map_cons, intercalate_cons, List.flatMap_map, heading_null]
    rfl

/-! ## The text -/

/-- Lines as a text. -/
def textOf (lines : List String) : String :=
  String.join (lines.map (· ++ "\n"))

theorem textOf_append (ls ms : List String) : textOf (ls ++ ms) = textOf ls ++ textOf ms := by
  rw [textOf, List.map_append, String.join_append]
  rfl

/-- The text of a report with its results in the given sections. -/
def layout (r : Report) (entry : Result → List String) (sections : List Section) : String :=
  textOf ([s!"Migration safety report for {r.engine.label}", ""] ++
    [""].intercalate (sections.map (Section.lines entry)) ++
    (if r.results.isEmpty then ["No operations to analyze."] else []) ++ r.violationLines ++
    r.summaryLines)

/-- The text of a report is laid out in sections, with neighbours of one name put together. -/
theorem toText_sections {r : Report} {sections : List Section}
    (hresults : sections.flatMap (·.results) = r.results)
    (hentry : ∀ x ∈ r.results, x.lines verbose = .ok (entry x)) :
    r.toText verbose = .ok (r.layout entry (merged sections)) := by
  have hlines : resultLines verbose .null r.results =
      .ok ([""].intercalate ((merged sections).map (Section.lines entry))) := by
    rw [← hresults, ← flatMap_results_merged]
    refine resultLines_sections (parted_merged sections) fun s hs x hx => hentry x ?_
    rw [← hresults, ← flatMap_results_merged]
    exact List.mem_flatMap.mpr ⟨s, hs, hx⟩
  rw [toText, lines, hlines]
  rfl

/-! ## One heading for every section -/

variable (entry)

/-- The length of sections as they are written, with the lines between them and one more. -/
def weight (entry : Result → List String) : List Section → Nat
  | [] => 0
  | s :: rest => (textOf (s.lines entry)).length + 1 + weight entry rest

theorem weight_cons (s : Section) (rest : List Section) :
    weight entry (s :: rest) = (textOf (s.lines entry)).length + 1 + weight entry rest :=
  rfl

/-- Two sections are longer than the one that they are put together to: it has one heading. -/
theorem length_lines_append_lt {s t : Section} (h : s.name = t.name) :
    (textOf ((s.append t h).lines entry)).length + 1 <
      (textOf (s.lines entry)).length + 1 + ((textOf (t.lines entry)).length + 1) := by
  have hlines : (s.append t h).lines entry = s.lines entry ++ t.results.flatMap entry := by
    simp [Section.lines, Section.append]
  have htail : t.lines entry = [s!"{t.name}:"] ++ t.results.flatMap entry := rfl
  rw [hlines, htail, textOf_append, textOf_append, String.length_append, String.length_append]
  omega

/-- Putting a section before others makes them no longer than they are side by side, and shorter if
it is put together with the first of them. -/
theorem weight_before (s : Section) (rest : List Section) :
    s.before rest = s :: rest ∨ weight entry (s.before rest) < weight entry (s :: rest) := by
  cases rest with
  | nil => exact .inl rfl
  | cons t ts =>
    rw [Section.before]
    split
    · next hname =>
      refine .inr ?_
      have hlt := length_lines_append_lt entry hname
      simp only [weight_cons]
      omega
    · exact .inl rfl

/-- Sections are shorter with neighbours put together, if there are any. -/
theorem weight_merged (sections : List Section) :
    merged sections = sections ∨ weight entry (merged sections) < weight entry sections := by
  induction sections with
  | nil => exact .inl rfl
  | cons s rest ih =>
    have hbefore := weight_before entry s (merged rest)
    rw [merged]
    rw [weight_cons] at hbefore ⊢
    rcases ih with hrest | hrest
    · rwa [hrest] at hbefore ⊢
    · refine .inr ?_
      rcases hbefore with hsame | hless
      · rw [hsame, weight_cons]
        omega
      · omega

theorem length_textOf_intercalate {s : Section} {rest : List Section} :
    (textOf ([""].intercalate ((s :: rest).map (Section.lines entry)))).length + 1 =
      weight entry (s :: rest) := by
  induction rest generalizing s with
  | nil => simp [List.intercalate, weight]
  | cons t ts ih =>
    have hempty : (textOf [""]).length = 1 := by decide
    rw [weight_cons, ← ih, List.map_cons, List.map_cons, intercalate_cons_cons, textOf_append,
      textOf_append, String.length_append, String.length_append, hempty]
    omega

/-- The text with neighbours of one name put together has a heading for every section exactly if
there are no such neighbours. -/
theorem layout_merged_eq_iff (r : Report) (sections : List Section) :
    r.layout entry (merged sections) = r.layout entry sections ↔ Parted sections := by
  constructor
  · intro h
    have hlength := congrArg String.length h
    simp only [layout, textOf_append, String.length_append] at hlength
    -- Sections that were put together would have left a shorter text.
    have hsame : merged sections = sections := by
      cases sections with
      | nil => rfl
      | cons s rest =>
        refine (weight_merged entry (s :: rest)).resolve_right fun hless => ?_
        obtain ⟨t, ts, hmerged⟩ : ∃ t ts, merged (s :: rest) = t :: ts := by
          apply List.exists_cons_of_ne_nil
          intro hnil
          have hresults := flatMap_results_merged (s :: rest)
          rw [hnil, List.flatMap_cons] at hresults
          exact s.nonempty (List.append_eq_nil_iff.mp hresults.symm).1
        rw [hmerged] at hless hlength
        rw [← length_textOf_intercalate, ← length_textOf_intercalate] at hless
        omega
    rw [← hsame]
    exact parted_merged sections
  · intro h
    rw [merged_of_parted h]

end Report

end MigrationSafety
