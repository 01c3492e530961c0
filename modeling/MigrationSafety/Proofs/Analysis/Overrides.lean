import MigrationSafety.Analysis
import MigrationSafety.Proofs.Outcome
import MigrationSafety.Proofs.Rule.Queried
import MigrationSafety.Proofs.Threshold
import MigrationSafety.Proofs.Value.Proper

/-!
# Settings that override thresholds

Settings override the built-in thresholds entry by entry. An analysis reads the thresholds of the
features that rules ask for, on the one kind of engine that it is about, and overrides of anything
else leave the report as it is.

* `Config.given?_overrides`: overrides that are read give what is written there;
* `Thresholds.relevantTo`: the overrides that an analysis can read;
* `Thresholds.given?_relevantTo`: they give the same for what it reads;
* `classifyPlan_withOverrides`: overrides that give the same, under the first pass;
* `overrides_merge`: what settings make of the thresholds, and what of it an analysis reads.
-/

namespace MigrationSafety

/-! ## Overrides that are read -/

theorem Value.isProper_of_mem {fields : List (String × Value)} (h : fieldsAreProper fields = true)
    {field : String × Value} (hfield : field ∈ fields) : field.2.isProper = true := by
  induction fields with
  | nil => cases hfield
  | cons first rest ih =>
    rw [fieldsAreProper, Bool.and_eq_true] at h
    rcases List.mem_cons.mp hfield with rfl | hfield
    · exact h.1
    · exact ih h.2 hfield

namespace Config

/-- Entries are read one by one, each under its kind. -/
theorem map_fst_of_readEntries {row : Value} {entries : List (String × Option Version)}
    (h : readEntries row = .ok entries) :
    ∃ given, row = .record given ∧ entries.map Prod.fst = given.map Prod.fst := by
  cases row
  case record given =>
    refine ⟨given, rfl, (map_eq_of_forall₂ (mapM_eq_ok.mp h) ?_).symm⟩
    rintro ⟨kind, written⟩ read hread
    simp only at hread
    cases hversion : Version.ofValue written with
    | ok version =>
      rw [hversion] at hread
      cases hread
      rfl
    | error why =>
      rw [hversion] at hread
      cases hread
  all_goals cases h

/-- An entry that is right stands under the name of its kind. -/
theorem rightEntry_eq_some {name : String} {version : Option Version}
    {entry : EngineKind × Version} :
    (match EngineKind.ofName? name, version with
      | some kind, some version => some (kind, version)
      | _, _ => none) = some entry → entry.1.name = name := by
  intro h
  split at h
  · rename_i kind _ hkind
    cases h
    rw [EngineKind.ofName?] at hkind
    simpa using List.find?_some hkind
  · cases h

theorem nodup_rightEntries {entries : List (String × Option Version)}
    (h : (entries.map Prod.fst).Nodup) : ((rightEntries entries).map Prod.fst).Nodup := by
  rw [List.Nodup, List.pairwise_map] at h ⊢
  rw [rightEntries, List.pairwise_filterMap]
  apply h.imp
  intro given given' hne entry hentry entry' hentry' heq
  apply hne
  rw [← rightEntry_eq_some hentry, ← rightEntry_eq_some hentry', heq]

/-- Rows of overrides are read one by one, each under its feature. -/
theorem forall₂_of_readOverrides {features : List (String × Value)}
    {rows : List (String × List (String × Option Version))}
    (h : readOverrides (.record features) = .ok rows) :
    List.Forall₂ (fun field row => field.1 = row.1 ∧ readEntries field.2 = .ok row.2)
      features rows := by
  refine (mapM_eq_ok.mp h).imp fun field row hrow => ?_
  obtain ⟨entries, hentries, hsame⟩ := bind_eq_ok.mp hrow
  cases hsame
  exact ⟨rfl, hentries⟩

/-- Overrides that are read have one row for each of their features, and one entry in it for each
kind of engine, if no key is written twice. -/
theorem isTable_of_checkOverrides {given : Value} {overrides : Thresholds}
    (hproper : given.isProper = true) (h : checkOverrides given = .ok (.ok overrides)) :
    overrides.IsTable := by
  cases given
  case record features =>
    rw [Value.isProper, Bool.and_eq_true, decide_eq_true_eq] at hproper
    rw [checkOverrides] at h
    cases hread : readOverrides (.record features) with
    | error fault =>
      rw [hread] at h
      cases fault <;> cases h
    | ok rows =>
      have hrows := forall₂_of_readOverrides hread
      have hnames : features.map Prod.fst = rows.map Prod.fst :=
        map_eq_of_forall₂ hrows fun _ _ hrow => hrow.1
      simp only [hread] at h
      split at h
      · cases h
        constructor
        · rw [List.map_map]
          exact hnames ▸ hproper.1
        · intro row hrow
          obtain ⟨read, hmem, rfl⟩ := List.mem_map.mp hrow
          obtain ⟨field, hfield, -, hentries⟩ := exists_of_forall₂ hrows hmem
          obtain ⟨given, hgiven, hkinds⟩ := map_fst_of_readEntries hentries
          have hrecord := Value.isProper_of_mem hproper.2 hfield
          rw [hgiven, Value.isProper, Bool.and_eq_true, decide_eq_true_eq, ← hkinds] at hrecord
          exact nodup_rightEntries hrecord.1
      · cases h
  all_goals cases h

/-- Settings that are read override each threshold once at most, so what they give for a feature and
a kind of engine is what is written there. -/
theorem given?_overrides {fields : List (String × Value)} {config : Config}
    (h : ofFields fields = .ok config)
    (hproper : ∀ given, fields.lookup overridesName = some given → given.isProper = true)
    (feature : String) (kind : EngineKind) :
    config.overrides.given? feature kind = config.overrides.find? feature kind := by
  apply Thresholds.given?_eq_find?
  have hgiven : ((fields.lookup overridesName).getD (.record [])).isProper = true := by
    cases hlookup : fields.lookup overridesName with
    | none => rfl
    | some given => exact hproper given hlookup
  simp only [ofFields] at h
  split at h
  · cases h
  · rename_i checked hchecked
    split at h
    · cases h
      exact isTable_of_checkOverrides hgiven hchecked
    · cases h

end Config

/-! ## Overrides that can be read -/

/-- Overrides without the entries for features that no rule asks for, and without those for other
kinds of engines. -/
def Thresholds.relevantTo (t : Thresholds) (kind : EngineKind) : Thresholds :=
  (t.filter fun (feature, _) => Rule.Queries feature).map fun (feature, row) =>
    (feature, row.filter fun (k, _) => k = kind)

/-- The same settings with other overrides. -/
def Config.withOverrides (config : Config) (overrides : Thresholds) : Config :=
  { config with overrides }

namespace Thresholds

variable {kind : EngineKind}

theorem lookupLast?_filter (row : List (EngineKind × Version)) :
    lookupLast? kind (row.filter fun (k, _) => k = kind) = lookupLast? kind row := by
  induction row with
  | nil => rfl
  | cons entry rest ih =>
    obtain ⟨k, v⟩ := entry
    by_cases hk : k = kind
    · simp [hk, lookupLast?, ih]
    · simp [hk, lookupLast?, ih]

/-- For a feature that rules ask for, and on the kind of engine, the entries that are left give what
all of them give. -/
theorem given?_relevantTo {feature : String} (h : Rule.Queries feature) (t : Thresholds) :
    (t.relevantTo kind).given? feature kind = t.given? feature kind := by
  induction t with
  | nil => rfl
  | cons entry rest ih =>
    obtain ⟨f, row⟩ := entry
    have hrest : relevantTo ((f, row) :: rest) kind =
        if Rule.Queries f then
          (f, row.filter fun (k, _) => k = kind) :: relevantTo rest kind
        else relevantTo rest kind := by
      rw [relevantTo, List.filter_cons]
      by_cases hf : Rule.Queries f <;> simp [hf, relevantTo]
    rw [hrest, given?_cons]
    by_cases hf : Rule.Queries f
    · rw [if_pos hf, given?_cons, ih, lookupLast?_filter]
    · have hne : f ≠ feature := by
        rintro rfl
        exact hf h
      rw [if_neg hf, ih, if_neg hne, Option.or_none]

end Thresholds

theorem Traced.forEach_congr {α β : Type} {f g : α → Traced β} {as : List α}
    (h : ∀ a ∈ as, f a = g a) : Traced.forEach f as = Traced.forEach g as := by
  induction as with
  | nil => rfl
  | cons a as ih =>
    obtain ⟨ha, has⟩ := List.forall_mem_cons.mp h
    rw [Traced.forEach, Traced.forEach, ha, ih has]

section
variable {config : Config} {overrides : Thresholds} {engine : Engine}

/-- Settings hold for a feature and a kind of engine what they override it with, and else the
built-in threshold. -/
theorem Config.find?_thresholds (config : Config) (feature : String) (kind : EngineKind) :
    config.thresholds.find? feature kind =
      (config.overrides.given? feature kind).or (Thresholds.builtIn.find? feature kind) :=
  Thresholds.find?_override feature kind _ _

/-- The first pass hangs on what the overrides give for features that rules ask for, on the kind of
the engine. -/
theorem classifyPlan_withOverrides (kb : KnowledgeBase) (p : Plan)
    (h : ∀ feature, Rule.Queries feature →
      overrides.given? feature engine.kind = config.overrides.given? feature engine.kind) :
    classifyPlan (config.withOverrides overrides) kb engine p =
      classifyPlan config kb engine p := by
  refine Traced.forEach_congr fun m _ => Traced.forEach_congr fun op _ => ?_
  apply classify_withThresholds ⟨engine, m.noTransaction, config.thresholds⟩
  intro feature hfeature
  rw [Config.find?_thresholds, Config.find?_thresholds]
  congr 1
  exact h feature (Rule.queries_iff.mpr hfeature)

/-- So does the whole analysis, with all that it logs. -/
theorem analyze_withOverrides (kb : KnowledgeBase) (p : Plan)
    (h : ∀ feature, Rule.Queries feature →
      overrides.given? feature engine.kind = config.overrides.given? feature engine.kind) :
    analyze (config.withOverrides overrides) kb engine p = analyze config kb engine p := by
  rw [analyze, classifyPlan_withOverrides kb p h]
  rfl

end

/-- Overrides are merged entry by entry and do not leak. For every feature and kind of engine the
thresholds of an analysis hold what the settings override them with, else what is built in, else
nothing. The analysis for an engine is the same, with its log and however it ends, if all overrides
for other kinds of engines and for features that no rule asks for are left out. -/
theorem overrides_merge (config : Config) :
    (∀ feature kind, config.thresholds.find? feature kind =
      (config.overrides.given? feature kind).or (Thresholds.builtIn.find? feature kind)) ∧
    ∀ kb engine p, analyze config kb engine p =
      analyze (config.withOverrides (config.overrides.relevantTo engine.kind)) kb engine p := by
  refine ⟨config.find?_thresholds, fun kb engine p => ?_⟩
  refine (analyze_withOverrides kb p fun feature hfeature => ?_).symm
  exact Thresholds.given?_relevantTo hfeature config.overrides

/-- An override for another kind of engine, and one for a feature of which no rule has heard. -/
example : Thresholds.relevantTo
    [(fastColumnDefault, [(.mysql, { components := [9] }), (.postgres, { components := [10] })]),
      ("slow_column_default", [(.postgres, { components := [10] })])] .postgres =
    [(fastColumnDefault, [(.postgres, { components := [10] })])] := by decide

end MigrationSafety
