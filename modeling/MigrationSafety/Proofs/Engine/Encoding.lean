import Mathlib.Algebra.Group.Nat.Defs
import MigrationSafety.Proofs.Text.Integer
import MigrationSafety.Report.Record

/-!
# Written engines are read back

An engine is written in two ways: as a text, its version behind a colon, and as a record, its
version as a list. Both are read by the same reader of versions, which takes many more forms, and
both give the engine back.

* `Version.exists_ofIntegers?_iff`, `Version.ofIntegers?_components`: which lists of integers are
  versions, and that a version is its components;
* `Version.ofText?_display`, `Version.lt_of_ofText?`: a version is read from its text, and what is
  read from a text can be written;
* `Engine.parse_spec`, `Engine.ofFields_record`: an engine is read from its text and its record;
* `Engine.parse_total`: what a text may be read as;
* `Engine.encodings_read_back`: all of it.
-/

namespace MigrationSafety

namespace Version

/-! ## Components -/

/-- A version is made of integers if there are any and none is negative. -/
theorem exists_ofIntegers?_iff {ns : List Int} :
    (∃ v, ofIntegers? ns = some v) ↔ ns ≠ [] ∧ ∀ n ∈ ns, 0 ≤ n := by
  rw [ofIntegers?]
  constructor
  · rintro ⟨v, hv⟩
    split at hv
    · rename_i hne
      split at hv
      · rename_i hall
        refine ⟨hne, fun n hn => ?_⟩
        exact of_decide_eq_true (List.all_eq_true.mp hall n hn)
      · cases hv
    · cases hv
  · rintro ⟨hne, hall⟩
    rw [dif_pos hne, if_pos (List.all_eq_true.mpr fun n hn => decide_eq_true (hall n hn))]
    exact ⟨_, rfl⟩

/-- A version is made of its components. -/
theorem ofIntegers?_components (v : Version) :
    ofIntegers? (v.components.map fun n : Nat => (n : Int)) = some v := by
  have hne : v.components.map (fun n : Nat => (n : Int)) ≠ [] := by simpa using v.nonempty
  have hall : ∀ n ∈ v.components.map (fun n : Nat => (n : Int)), 0 ≤ n := by
    intro n hn
    obtain ⟨m, -, rfl⟩ := List.mem_map.mp hn
    exact Int.natCast_nonneg m
  obtain ⟨w, hw⟩ := exists_ofIntegers?_iff.mpr ⟨hne, hall⟩
  have hcomponents := components_ofIntegers? hw
  rw [List.map_map] at hcomponents
  have hsame : w = v := by
    cases v
    cases w
    simpa [Function.comp_def] using hcomponents
  rw [hw, hsame]

/-- Items that are read one by one, each from a written form of its own. -/
theorem mapM_map_eq_some {α β γ : Type} (f : β → Option γ) (g : α → β) (k : α → γ) {as : List α}
    (h : ∀ a ∈ as, f (g a) = some (k a)) : (as.map g).mapM f = some (as.map k) := by
  induction as with
  | nil => rfl
  | cons a as ih =>
    obtain ⟨ha, has⟩ := List.forall_mem_cons.mp h
    rw [List.map_cons, List.mapM_cons, ha, ih has]
    rfl

/-- What is read one by one comes from the items. -/
theorem exists_of_mapM_eq_some {α β : Type} {f : α → Option β} {as : List α} {bs : List β}
    (h : as.mapM f = some bs) {b : β} (hb : b ∈ bs) : ∃ a ∈ as, f a = some b := by
  induction as generalizing bs with
  | nil =>
    cases h
    cases hb
  | cons a as ih =>
    rw [List.mapM_cons] at h
    obtain ⟨first, hfirst, h⟩ := Option.bind_eq_some_iff.mp h
    obtain ⟨rest, hrest, h⟩ := Option.bind_eq_some_iff.mp h
    cases h
    rcases List.mem_cons.mp hb with rfl | hb
    · exact ⟨a, List.mem_cons_self, hfirst⟩
    · obtain ⟨a', ha', hread⟩ := ih hrest hb
      exact ⟨a', List.mem_cons_of_mem _ ha', hread⟩

/-- A list of integers is read as the version that they make. -/
theorem ofValue_list (ns : List Int) : ofValue (.list (ns.map .int)) =
    match ofIntegers? ns with
    | some v => .ok (some v)
    | none => .error (.invalidVersion (.list (ns.map .int))) := by
  have hread : (ns.map Value.int).mapM component? = some ns := by
    rw [mapM_map_eq_some component? Value.int id fun _ _ => rfl, List.map_id]
  show (match ((ns.map Value.int).mapM component?).bind ofIntegers? with
    | some v => Except.ok (some v)
    | none => Except.error (ValueFault.invalidVersion (.list (ns.map .int)))) = _
  rw [hread, Option.bind_some]

/-! ## Texts -/

theorem toList_display (v : Version) :
    v.display.toList = ['.'].intercalate (v.components.map (Nat.toDigits 10)) := by
  rw [display]
  simp [String.toList_intercalate, Function.comp_def]

/-- A written version consists of digits and points. -/
theorem isDigit_or_of_mem_display {v : Version} {c : Char} (h : c ∈ v.display.toList) :
    c.isDigit = true ∨ c = '.' := by
  rw [toList_display] at h
  rcases Text.mem_intercalate h with hc | ⟨digits, hdigits, hc⟩
  · exact .inr hc
  · obtain ⟨n, -, rfl⟩ := List.mem_map.mp hdigits
    exact .inl (Nat.isDigit_of_mem_toDigits (by decide) (by decide) hc)

/-- The pieces between the points are the digits of the components. -/
theorem splitAtEach_display (v : Version) :
    Text.splitAtEach '.' v.display.toList = v.components.map (Nat.toDigits 10) := by
  rw [toList_display, Text.splitAtEach_eq_splitOn]
  apply List.splitOn_intercalate
  · intro digits hdigits hpoint
    obtain ⟨n, -, rfl⟩ := List.mem_map.mp hdigits
    exact absurd (Nat.isDigit_of_mem_toDigits (by decide) (by decide) hpoint) (by decide)
  · simpa using v.nonempty

theorem display_ne_empty (v : Version) : v.display ≠ "" := by
  intro hempty
  have hpieces : [[]] = v.components.map (Nat.toDigits 10) := by
    rw [← splitAtEach_display, hempty]
    rfl
  obtain ⟨n, -, hn⟩ := List.mem_map.mp (hpieces ▸ List.mem_singleton_self [])
  exact Nat.toDigits_ne_nil hn

theorem trim_display (v : Version) : Text.trim v.display = v.display := by
  rw [Text.trim, Text.trimChars_of_solid, String.ofList_toList]
  intro c hc
  rcases isDigit_or_of_mem_display hc with hdigit | rfl
  · exact Text.isBlank_of_isDigit hdigit
  · decide

variable {v : Version}

/-- A version is read from its text, if no component has too many digits. -/
theorem ofText?_display (h : ∀ n ∈ v.components, n < 10 ^ Text.digitLimit) :
    ofText? v.display = some v := by
  have hread : ∀ n ∈ v.components,
      (Text.readInteger (String.ofList (Nat.toDigits 10 n))).toOption = some (n : Int) := by
    intro n hn
    have hshort : (Nat.toDigits 10 n).length ≤ Text.digitLimit :=
      (Nat.length_toDigits_le_iff (by decide) (by decide)).mpr (h n hn)
    rw [Text.readInteger_toDigits hshort]
    rfl
  have hall := mapM_map_eq_some (fun p => (Text.readInteger p).toOption)
    (fun n => String.ofList (Nat.toDigits 10 n)) (fun n : Nat => (n : Int)) hread
  rw [ofText?, splitAtEach_display, List.map_map]
  exact (congrArg (·.bind ofIntegers?) hall).trans (ofIntegers?_components v)

/-- No component that is read from a text has too many digits. -/
theorem lt_of_ofText? {s : String} (h : ofText? s = some v) :
    ∀ n ∈ v.components, n < 10 ^ Text.digitLimit := by
  obtain ⟨ns, hread, hmade⟩ := Option.bind_eq_some_iff.mp h
  intro n hn
  rw [components_ofIntegers? hmade] at hn
  obtain ⟨m, hm, rfl⟩ := List.mem_map.mp hn
  obtain ⟨piece, -, hpiece⟩ := exists_of_mapM_eq_some hread hm
  have hinteger : Text.readInteger piece = .ok m := by
    cases hresult : Text.readInteger piece with
    | ok m' =>
      rw [hresult] at hpiece
      cases hpiece
      rfl
    | error fault =>
      rw [hresult] at hpiece
      cases hpiece
  have hshort := Text.length_toDigits_of_readInteger hinteger
  rw [Nat.length_toDigits_le_iff (by decide) (by decide)] at hshort
  omega

/-- A text is read without the blanks around it. -/
theorem ofText?_of_ofValue {s : String} (h : ofValue (.text s) = .ok (some v)) :
    ofText? (Text.trim s) = some v := by
  rw [ofValue] at h
  simp only at h
  rw [Value.display_text] at h
  split at h
  · cases h
  · split at h
    · cases h
      assumption
    · cases h

theorem ofValue_display (h : ∀ n ∈ v.components, n < 10 ^ Text.digitLimit) :
    ofValue (.text v.display) = .ok (some v) := by
  rw [ofValue]
  simp only
  rw [Value.display_text, trim_display, beq_false_of_ne (display_ne_empty v),
    if_neg Bool.false_ne_true, ofText?_display h]

end Version

theorem Text.bne_of_not_mem {sep : Char} {cs : List Char} (h : sep ∉ cs) :
    ∀ c ∈ cs, (c != sep) = true := by
  intro c hc
  rw [bne_iff_ne]
  rintro rfl
  exact h hc

/-- A text is split where a character stands first. -/
theorem Text.splitAtFirst_append {sep : Char} {cs : List Char} (h : sep ∉ cs) (rest : List Char) :
    splitAtFirst sep (cs ++ sep :: rest) = (cs, rest) := by
  have hbefore := bne_of_not_mem h
  have hstop : (sep != sep) = false := by simp
  rw [splitAtFirst, List.takeWhile_append_of_pos hbefore, List.dropWhile_append_of_pos hbefore,
    List.takeWhile_cons, List.dropWhile_cons, hstop, if_neg Bool.false_ne_true,
    if_neg Bool.false_ne_true, List.append_nil, List.drop_one, List.tail_cons]

theorem Text.splitAtFirst_of_not_mem {sep : Char} {cs : List Char} (h : sep ∉ cs) :
    splitAtFirst sep cs = (cs, []) := by
  have hall := bne_of_not_mem h
  rw [splitAtFirst, List.takeWhile_eq_self_iff.mpr hall, List.dropWhile_eq_nil_iff.mpr hall,
    List.drop_nil]

namespace Engine

/-! ## Engines as texts -/

/-- The text that an engine is read from: the name of its kind, with the version behind a colon if
that is known. -/
def spec (e : Engine) : String :=
  match e.version with
  | none => e.kind.name
  | some v => e.kind.name ++ ":" ++ v.display

/-- Whether no component of the version has more digits than are read. -/
def HasShortComponents (e : Engine) : Prop :=
  ∀ v, e.version = some v → ∀ n ∈ v.components, n < 10 ^ Text.digitLimit

/-- The name of a kind is read as the kind. -/
theorem ofAlias?_name (kind : EngineKind) : EngineKind.ofAlias? kind.name = some kind := by
  cases kind <;> rfl

/-- Parts that can be used make an engine. -/
theorem check_eq_ok {kind : EngineKind} {given : Value} {version : Option Version}
    (h : Version.ofValue given = .ok version) (timeZone : String) :
    check (some (.text kind.name)) given (.text timeZone) = .ok ⟨kind, version, timeZone⟩ := by
  simp only [check, checkKind, ofAlias?_name, checkVersion, h, checkText]
  rfl

theorem not_mem_name (kind : EngineKind) : ':' ∉ kind.name.toList := by
  cases kind <;> decide

/-- An engine is read from its text. -/
theorem parse_spec {e : Engine} (h : e.HasShortComponents) :
    parse e.spec (.text e.timeZone) = .ok e := by
  obtain ⟨kind, version, timeZone⟩ := e
  cases version with
  | none =>
    have hsplit : Text.splitAtFirst ':' kind.name.toList = (kind.name.toList, []) :=
      Text.splitAtFirst_of_not_mem (not_mem_name kind)
    simp only [parse, spec, hsplit, String.ofList_toList, ofAlias?_name, List.isEmpty_nil, if_true]
    rw [check_eq_ok rfl]
    rfl
  | some v =>
    have hread : Version.ofValue (.text v.display) = .ok (some v) :=
      Version.ofValue_display (h v rfl)
    have hsplit : Text.splitAtFirst ':' (kind.name ++ ":" ++ v.display).toList =
        (kind.name.toList, v.display.toList) := by
      rw [String.toList_append, String.toList_append, List.append_assoc]
      exact Text.splitAtFirst_append (not_mem_name kind) v.display.toList
    have hgiven : v.display.toList.isEmpty = false := by
      simpa using Version.display_ne_empty v
    simp only [parse, spec, hsplit, String.ofList_toList, ofAlias?_name, hgiven]
    rw [if_neg Bool.false_ne_true, check_eq_ok hread]
    rfl

theorem version_of_check {kind : Option Value} {given timeZone : Value} {e : Engine}
    (h : check kind given timeZone = .ok e) : Version.ofValue given = .ok e.version := by
  rw [check] at h
  split at h
  · rename_i version _ _ hversion _
    cases h
    rw [checkVersion, mapError_eq_ok] at hversion
    exact hversion
  · cases h

/-- An engine that is read from a text has no component with too many digits, so it is read from
its own text too. -/
theorem hasShortComponents_of_parse {s : String} {timeZone : Value} {e : Engine}
    (h : parse s timeZone = .ok e) : e.HasShortComponents := by
  rw [parse] at h
  simp only at h
  split at h
  · cases h
  · have hversion := version_of_check (mapError_eq_ok.mp h)
    intro v hv
    rw [hv] at hversion
    split at hversion
    · cases hversion
    · exact Version.lt_of_ofText? (Version.ofText?_of_ofValue hversion)

/-- However an engine is written, it is read, or the configuration is wrong. -/
theorem parse_total (s : String) (timeZone : Value) :
    (∃ e, parse s timeZone = .ok e) ∨
      ∃ fault, parse s timeZone = .error (.configuration fault) := by
  rw [parse]
  simp only
  cases EngineKind.ofAlias? (String.ofList (Text.splitAtFirst ':' s.toList).1) with
  | none => exact .inr ⟨_, rfl⟩
  | some kind =>
    simp only
    generalize check (some (.text kind.name)) _ timeZone = checked
    cases checked with
    | ok e => exact .inl ⟨e, rfl⟩
    | error problems => exact .inr ⟨_, rfl⟩

/-! ## Engines as records -/

/-- A list of integers is the version of an engine if there are any and none is negative. -/
theorem exists_ofParts_iff {kind : EngineKind} {ns : List Int} {timeZone : String} :
    (∃ e, ofParts kind (.list (ns.map .int)) (.text timeZone) = .ok e) ↔
      ns ≠ [] ∧ ∀ n ∈ ns, 0 ≤ n := by
  rw [← Version.exists_ofIntegers?_iff, ofParts]
  constructor
  · rintro ⟨e, he⟩
    cases hmade : Version.ofIntegers? ns with
    | some v => exact ⟨v, rfl⟩
    | none =>
      have hrefused := Version.ofValue_list ns
      rw [hmade] at hrefused
      simp only [check, checkKind, ofAlias?_name, checkVersion, hrefused, checkText] at he
      cases he
  · rintro ⟨v, hv⟩
    have hread := Version.ofValue_list ns
    rw [hv] at hread
    rw [check_eq_ok hread]
    exact ⟨_, rfl⟩

/-- An engine is read from its record. -/
theorem ofFields_record (e : Engine) :
    ∃ fields, e.record = .record fields ∧ ofFields fields = .ok e := by
  obtain ⟨kind, version, timeZone⟩ := e
  refine ⟨_, rfl, ?_⟩
  cases version with
  | none =>
    show (check (some (.text kind.name)) .null (.text timeZone)).mapError _ = _
    rw [check_eq_ok rfl]
    rfl
  | some v =>
    have hread : Version.ofValue (.list (v.components.map fun n : Nat => .int n)) =
        .ok (some v) := by
      have hlist := Version.ofValue_list (v.components.map fun n : Nat => (n : Int))
      rw [Version.ofIntegers?_components, List.map_map] at hlist
      exact hlist
    show (check (some (.text kind.name)) (.list (v.components.map fun n : Nat => .int n))
      (.text timeZone)).mapError _ = _
    rw [check_eq_ok hread]
    rfl

/-- The record of a report names its engine. -/
theorem record_of_report {r : Report} {record : Value} (h : r.record = .ok record) :
    record.get? "engine" = some r.engine.record := by
  obtain ⟨results, -, hrecord⟩ := bind_eq_ok.mp h
  cases hrecord
  rfl

/-! ## The whole -/

/-- The written forms of engines agree with each other. A version is a list of components that is
not empty, and any list of integers makes one that is not empty and has no negative integer in it.
An engine is read from its text, unless a component has more digits than are read, and from the
record of a report on it; every engine that is read from a text can be written and read again. No
text is read as anything but an engine or a fault of the configuration. -/
theorem encodings_read_back :
    (∀ (e : Engine) (v : Version), e.version = some v → v.components ≠ []) ∧
    (∀ (kind : EngineKind) (ns : List Int) (timeZone : String),
      (∃ e, ofParts kind (.list (ns.map .int)) (.text timeZone) = .ok e) ↔
        ns ≠ [] ∧ ∀ n ∈ ns, 0 ≤ n) ∧
    (∀ e : Engine, e.HasShortComponents → parse e.spec (.text e.timeZone) = .ok e) ∧
    (∀ (r : Report) (record : Value), r.record = .ok record →
      ∃ fields, record.get? "engine" = some (.record fields) ∧ ofFields fields = .ok r.engine) ∧
    (∀ (s : String) (timeZone : Value) (e : Engine), parse s timeZone = .ok e →
      parse e.spec (.text e.timeZone) = .ok e) ∧
    ∀ (s : String) (timeZone : Value), (∃ e, parse s timeZone = .ok e) ∨
      ∃ fault, parse s timeZone = .error (.configuration fault) := by
  refine ⟨fun _ v _ => v.nonempty, fun _ _ _ => exists_ofParts_iff, fun _ => parse_spec,
    fun r record h => ?_, fun _ _ _ h => parse_spec (hasShortComponents_of_parse h), parse_total⟩
  obtain ⟨fields, hfields, hread⟩ := ofFields_record r.engine
  exact ⟨fields, hfields ▸ record_of_report h, hread⟩

/-- A version with zeros at its end, of an engine in a time zone of its own. -/
def paddedVersion : Engine :=
  ⟨.postgres, some { components := [12, 0, 10, 0] }, "Etc/GMT+1"⟩

/-- Its zeros are kept, in the text and in the record of a report. -/
theorem encodings_read_back_paddedVersion :
    paddedVersion.HasShortComponents ∧ paddedVersion.spec = "postgres:12.0.10.0" ∧
      parse "postgres:12.0.10.0" (.text "Etc/GMT+1") = .ok paddedVersion ∧
      ∃ record fields, (Report.mk paddedVersion [] [] .safe).record = .ok record ∧
        record.get? "engine" = some (.record fields) ∧ ofFields fields = .ok paddedVersion := by
  obtain ⟨-, -, htext, hrecord, -, -⟩ := encodings_read_back
  have hshort : paddedVersion.HasShortComponents := by
    rintro v ⟨⟩ n hn
    have hsmall : n < Text.digitLimit := by
      have hall : ∀ m ∈ [12, 0, 10, 0], m < Text.digitLimit := by decide
      exact hall n hn
    exact hsmall.trans (Nat.lt_pow_self (by decide))
  have hspec : paddedVersion.spec = "postgres:12.0.10.0" := rfl
  obtain ⟨fields, hfields, hread⟩ := hrecord (Report.mk paddedVersion [] [] .safe) _ rfl
  exact ⟨hshort, hspec, hspec ▸ htext paddedVersion hshort, _, fields, rfl, hfields, hread⟩

end Engine

end MigrationSafety
