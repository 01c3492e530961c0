import MigrationSafety.ColumnType.Change
import MigrationSafety.Proofs.Outcome

/-!
# Changes of type that only widen

Every change between differing types that keeps the table widens the type: its limit is not lowered,
and the scale of a decimal stays. Which families of types are related is a matter of their names
alone; within and between them the limits decide. Limits are ordered, with no limit on top, so the
changes that keep the table compose.

* `NoLower`: the order of limits;
* `TypeChange.relations`: the pairs of names between which Postgres keeps the table;
* `TypeChange.Widens`, `TypeChange.Lengthens`: what a change that keeps the table does to a type;
* `TypeChange.onPostgres_eq_feature_iff`, `TypeChange.onMysql_eq_feature_iff`: it keeps the table
  under this condition, and under no other;
* `TypeChange.Widens.trans`, `TypeChange.Lengthens.trans`: two changes one after another;
* `allowed_iff_widens`: what is allowed between two written types.
-/

namespace MigrationSafety

/-- A limit is no lower than another one; no limit at all is above every limit. -/
inductive NoLower : Option Nat → Option Nat → Prop
  | unlimited (old : Option Nat) : NoLower old none
  | limited {o n : Nat} (h : o ≤ n) : NoLower (some o) (some n)

namespace NoLower

theorem refl (limit : Option Nat) : NoLower limit limit := by
  cases limit with
  | none => exact .unlimited none
  | some n => exact .limited (Nat.le_refl n)

theorem trans {a b c : Option Nat} (hab : NoLower a b) (hbc : NoLower b c) : NoLower a c := by
  cases hbc with
  | unlimited => exact .unlimited a
  | limited hbc =>
    cases hab with
    | limited hab => exact .limited (Nat.le_trans hab hbc)

theorem eq_none {new : Option Nat} (h : NoLower none new) : new = none := by
  cases h
  rfl

end NoLower

/-- The limit that a type sets to its values. Text has none, whatever stands behind its name. -/
def ColumnType.limit (t : ColumnType) : Option Nat :=
  if t.name = "text" then none else t.length

theorem ColumnType.limit_of_text {t : ColumnType} (h : t.name = "text") : t.limit = none :=
  if_pos h

theorem ColumnType.limit_of_ne_text {t : ColumnType} (h : t.name ≠ "text") : t.limit = t.length :=
  if_neg h

namespace TypeChange

open ColumnType (limit_of_text limit_of_ne_text)

variable {timeZone feature : String} {old new : ColumnType}

theorem lengthKept_iff : lengthKept old new = true ↔ NoLower old.length new.length := by
  rw [lengthKept]
  cases new.length with
  | none => exact ⟨fun _ => .unlimited _, fun _ => rfl⟩
  | some n =>
    cases old.length with
    | none => exact ⟨nofun, nofun⟩
    | some o =>
      rw [decide_eq_true_iff]
      exact ⟨.limited, fun | .limited h => h⟩

theorem when_eq_feature_iff {condition : Bool} {r : Requirement} :
    when condition r = .feature feature ↔ condition = true ∧ r = .feature feature := by
  cases condition <;> simp [when]

/-! ## Postgres -/

theorem isUtc_iff : isUtc timeZone = true ↔
    timeZone.map Char.toUpper ∈ ["UTC", "ETC/UTC", "GMT"] :=
  List.contains_iff_mem

/-- The names between which Postgres keeps the table, and the feature that it needs. -/
def relations : List (String × String × String) :=
  [("varchar", "varchar", binaryCoercible), ("varchar", "text", binaryCoercible),
    ("text", "varchar", binaryCoercible), ("decimal", "decimal", decimalPrecision),
    ("cidr", "inet", binaryCoercible), ("timestamp", "timestamp", binaryCoercible),
    ("timestamptz", "timestamptz", binaryCoercible), ("time", "time", binaryCoercible),
    ("timetz", "timetz", binaryCoercible), ("interval", "interval", binaryCoercible),
    ("timestamp", "timestamptz", timestampConversion),
    ("timestamptz", "timestamp", timestampConversion)]

/-- What a change that keeps the table on Postgres does to a type. -/
structure Widens (timeZone : String) (old new : ColumnType) (feature : String) : Prop where
  names : (old.name, new.name, feature) ∈ relations
  /-- Times with and without a time zone are the same in a session in UTC only. -/
  utc : feature = timestampConversion → timeZone.map Char.toUpper ∈ ["UTC", "ETC/UTC", "GMT"]
  /-- Text and addresses of the wider type take every value of the type they are made of. -/
  limit : new.name ≠ "text" → new.name ≠ "inet" → NoLower old.limit new.length
  scale : new.name = "decimal" → new.length ≠ none → new.scale = old.scale

/-- The relations between types of times: each is related to itself, and limits decide. -/
theorem relations_of_precisionTypes : ∀ name ∈ precisionTypes,
    (name, name, binaryCoercible) ∈ relations ∧ name ≠ "text" ∧ name ≠ "decimal" := by
  decide

section
variable {o n : String} (hold : old.name = o) (hnew : new.name = n)
  (hnames : (o, n, feature) ∈ relations)
include hold hnew hnames

/-- A change to a type that takes everything. -/
theorem Widens.of_unlimited (hutc : feature ≠ timestampConversion)
    (h : n = "text" ∨ n = "inet" ∨ new.length = none) : Widens timeZone old new feature := by
  subst hold hnew
  refine ⟨hnames, fun h => absurd h hutc, fun htext hinet => ?_, fun hdecimal hlength => ?_⟩
  · rw [(h.resolve_left htext).resolve_left hinet]
    exact .unlimited _
  · rw [hdecimal] at h
    exact absurd ((h.resolve_left (by decide)).resolve_left (by decide)) hlength

/-- A change from and to limited types, where limits decide. -/
theorem Widens.of_lengthKept (hutc : feature = timestampConversion → isUtc timeZone = true)
    (htext : o ≠ "text") (hscale : n = "decimal" → new.scale = old.scale)
    (hkept : lengthKept old new = true) : Widens timeZone old new feature := by
  subst hold hnew
  refine ⟨hnames, isUtc_iff.mp ∘ hutc, fun _ _ => ?_, fun hdecimal _ => hscale hdecimal⟩
  rw [limit_of_ne_text htext]
  exact lengthKept_iff.mp hkept

end

/-- A change that keeps the table on Postgres widens the type. -/
theorem widens_of_onPostgres (h : onPostgres timeZone old new = .feature feature) :
    Widens timeZone old new feature := by
  simp only [onPostgres, Bool.and_eq_true, Bool.or_eq_true, beq_iff_eq, Option.isNone_iff_eq_none,
    List.contains_iff_mem] at h
  split at h
  · cases h
  split at h
  · rename_i hold
    split at h
    · rename_i hnew
      cases h
      exact .of_unlimited hold hnew (by decide) (by decide) (.inl rfl)
    · obtain ⟨hif, h⟩ := when_eq_feature_iff.mp h
      cases h
      simp only [Bool.and_eq_true, beq_iff_eq] at hif
      exact .of_lengthKept hold hif.1 (by decide) (fun h => absurd h (by decide)) (by decide)
        (fun h => absurd h (by decide)) hif.2
  split at h
  · rename_i hif
    obtain ⟨⟨hold, hnew⟩, hlength⟩ := hif
    cases h
    exact .of_unlimited hold hnew (by decide) (by decide) (.inr (.inr hlength))
  split at h
  · rename_i hif
    obtain ⟨hold, hnew⟩ := hif
    obtain ⟨hif, h⟩ := when_eq_feature_iff.mp h
    cases h
    simp only [Bool.or_eq_true, Bool.and_eq_true, beq_iff_eq, Option.isNone_iff_eq_none] at hif
    rcases hif with hlength | ⟨hscale, hkept⟩
    · exact .of_unlimited hold hnew (by decide) (by decide) (.inr (.inr hlength))
    · exact .of_lengthKept hold hnew (by decide) (fun h => absurd h (by decide)) (by decide)
        (fun _ => hscale) hkept
  split at h
  · rename_i hif
    cases h
    exact .of_unlimited hif.1 hif.2 (by decide) (by decide) (.inr (.inl rfl))
  split at h
  · rename_i hif
    obtain ⟨hname, hmem⟩ := hif
    obtain ⟨hkept, h⟩ := when_eq_feature_iff.mp h
    cases h
    obtain ⟨hrelated, htext, hdecimal⟩ := relations_of_precisionTypes _ hmem
    exact .of_lengthKept rfl hname.symm hrelated (fun h => absurd h (by decide)) htext
      (fun h => absurd h hdecimal) hkept
  split at h
  · rename_i hnames
    obtain ⟨hif, h⟩ := when_eq_feature_iff.mp h
    cases h
    rw [Bool.and_eq_true] at hif
    rcases hnames with ⟨hold, hnew⟩ | ⟨hold, hnew⟩
    · exact .of_lengthKept hold hnew (by decide) (fun _ => hif.1) (by decide)
        (fun h => absurd h (by decide)) hif.2
    · exact .of_lengthKept hold hnew (by decide) (fun _ => hif.1) (by decide)
        (fun h => absurd h (by decide)) hif.2
  · cases h

/-- Between differing types Postgres keeps the table if the type is widened. -/
theorem onPostgres_of_widens (hne : old ≠ new) (h : Widens timeZone old new feature) :
    onPostgres timeZone old new = .feature feature := by
  obtain ⟨hnames, hutc, hlimit, hscale⟩ := h
  have hzone (hf : feature = timestampConversion) : isUtc timeZone = true := isUtc_iff.mpr (hutc hf)
  have hkept (htext : old.name ≠ "text") (hno : new.name ≠ "text") (hinet : new.name ≠ "inet") :
      lengthKept old new = true :=
    lengthKept_iff.mpr (limit_of_ne_text htext ▸ hlimit hno hinet)
  have hlength (htext : old.name = "text") (hno : new.name ≠ "text") (hinet : new.name ≠ "inet") :
      new.length = none :=
    NoLower.eq_none (limit_of_text htext ▸ hlimit hno hinet)
  have hdecimal (hnew : new.name = "decimal") : new.length = none ∨ new.scale = old.scale :=
    Classical.or_iff_not_imp_left.mpr (hscale hnew)
  simp only [relations, List.mem_cons, List.not_mem_nil, or_false, Prod.mk.injEq] at hnames
  rcases hnames with ⟨hold, hnew, rfl⟩ | ⟨hold, hnew, rfl⟩ | ⟨hold, hnew, rfl⟩ |
    ⟨hold, hnew, rfl⟩ | ⟨hold, hnew, rfl⟩ | ⟨hold, hnew, rfl⟩ | ⟨hold, hnew, rfl⟩ |
    ⟨hold, hnew, rfl⟩ | ⟨hold, hnew, rfl⟩ | ⟨hold, hnew, rfl⟩ | ⟨hold, hnew, rfl⟩ |
    ⟨hold, hnew, rfl⟩
  all_goals
    simp [onPostgres, when, precisionTypes, hne, hold, hnew, hkept, hlength, hdecimal, hzone]

/-- A change between differing types keeps the table on Postgres if it widens the type, and it needs
no more than a feature for that. -/
theorem onPostgres_eq_feature_iff (hne : old ≠ new) :
    onPostgres timeZone old new = .feature feature ↔ Widens timeZone old new feature :=
  ⟨widens_of_onPostgres, onPostgres_of_widens hne⟩

theorem onPostgres_eq_always_iff : onPostgres timeZone old new = .always ↔ old = new := by
  constructor
  · intro h
    simp only [onPostgres] at h
    split at h
    · exact beq_iff_eq.mp ‹_›
    · -- Every other branch answers with a feature, or not at all.
      simp only [when] at h
      split_ifs at h
  · rintro rfl
    simp [onPostgres]

/-! ## The MySQL family -/

/-- What a change that keeps the table on an engine of the MySQL family does to a type. Lengths of
up to 63 characters are stored in one byte, and longer ones in two. -/
structure Lengthens (old new : ColumnType) : Prop where
  old_name : old.name = "varchar"
  new_name : new.name = "varchar"
  lengths : ∃ o n, old.length = some o ∧ new.length = some n ∧ o ≤ n ∧ (o ≤ 63 → n ≤ 63)

theorem sameBytes_iff {o n : Nat} (h : o ≤ n) :
    (decide (o ≤ shortLength) == decide (n ≤ shortLength)) = true ↔ (o ≤ 63 → n ≤ 63) := by
  have hshort : shortLength = 63 := rfl
  rw [beq_iff_eq, decide_eq_decide, hshort]
  omega

/-- A change between differing types keeps the table on an engine of the MySQL family if it
lengthens a text and the length takes as many bytes as before. -/
theorem onMysql_eq_feature_iff (hne : old ≠ new) :
    onMysql old new = .feature feature ↔ Lengthens old new ∧ feature = varcharExtension := by
  have hne' : (old == new) = false := beq_eq_false_iff_ne.mpr hne
  rw [onMysql, hne', if_neg Bool.false_ne_true]
  constructor
  · intro h
    split at h
    · rename_i hnames
      rw [Bool.and_eq_true, beq_iff_eq, beq_iff_eq] at hnames
      split at h
      · rename_i o n hold hnew
        obtain ⟨hif, h⟩ := when_eq_feature_iff.mp h
        cases h
        rw [Bool.and_eq_true, decide_eq_true_iff] at hif
        exact ⟨⟨hnames.1, hnames.2, o, n, hold, hnew, hif.1, (sameBytes_iff hif.1).mp hif.2⟩, rfl⟩
      · cases h
    · cases h
  · rintro ⟨⟨hold, hnew, o, n, ho, hn, hle, hbytes⟩, rfl⟩
    simp [hold, hnew, ho, hn, hle, (sameBytes_iff hle).mpr hbytes, when]

theorem onMysql_eq_always_iff : onMysql old new = .always ↔ old = new := by
  constructor
  · intro h
    simp only [onMysql] at h
    split at h
    · exact beq_iff_eq.mp ‹_›
    · simp only [when] at h
      split_ifs at h
      · split at h
        · split_ifs at h
        · cases h
  · rintro rfl
    simp [onMysql]

/-! ## One change after another -/

/-- The feature that two changes at once need, given those that they need one after another: one of
them, or that of relabelling values where a time zone is added and taken away again. -/
def Composed (first second both : String) : Prop :=
  both = first ∨ both = second ∨ both = binaryCoercible ∧ first = timestampConversion

instance (first second both : String) : Decidable (Composed first second both) :=
  inferInstanceAs (Decidable (_ ∨ _))

/-- Related names are related over a third one, but for text, which is related to itself only by a
change that changes nothing. -/
theorem relations_trans : ∀ p ∈ relations, ∀ q ∈ relations, p.2.1 = q.1 →
    p.1 = "text" ∧ q.2.1 = "text" ∨
      ∃ r ∈ relations, r.1 = p.1 ∧ r.2.1 = q.2.1 ∧ Composed p.2.2 q.2.2 r.2.2 := by
  decide

/-- Only decimals become decimals, and addresses of the wider type become nothing else. -/
theorem name_of_relations : ∀ p ∈ relations,
    (p.2.1 = "decimal" → p.1 = "decimal") ∧ p.1 ≠ "inet" := by
  decide

/-- Two changes that widen a type make one that does. -/
theorem Widens.trans {a b c : ColumnType} {f g : String} (hab : Widens timeZone a b f)
    (hbc : Widens timeZone b c g) (hb : b.name = "text" → b.modifiers = []) :
    a.name = "text" ∧ c.name = "text" ∨ ∃ h, Widens timeZone a c h ∧ Composed f g h := by
  refine (relations_trans _ hab.names _ hbc.names rfl).imp_right ?_
  rintro ⟨⟨aname, cname, h⟩, hrelated, rfl, rfl, hcomposed⟩
  have hlength : b.limit = b.length := by
    by_cases htext : b.name = "text"
    · rw [limit_of_text htext, ColumnType.length, hb htext, List.head?_nil]
    · exact limit_of_ne_text htext
  have hinet : b.name ≠ "inet" := (name_of_relations _ hbc.names).2
  have hlimit : NoLower a.limit b.length := by
    by_cases htext : b.name = "text"
    · rw [← hlength, limit_of_text htext]
      exact .unlimited _
    · exact hab.limit htext hinet
  refine ⟨h, ⟨hrelated, fun hh => ?_, fun htext hno => ?_, fun hdecimal hc => ?_⟩, hcomposed⟩
  · rcases hcomposed with hf | hg | ⟨hh', -⟩
    · exact hab.utc (hf.symm.trans hh)
    · exact hbc.utc (hg.symm.trans hh)
    · exact absurd (hh'.symm.trans hh) (by decide)
  · exact hlimit.trans (hlength ▸ hbc.limit htext hno)
  · have hbname : b.name = "decimal" := (name_of_relations _ hbc.names).1 hdecimal
    -- A decimal without limits has no scale to keep, and cannot become one with limits.
    have hblength : b.length ≠ none := by
      intro hnone
      have hkept := hbc.limit (by rw [hdecimal]; decide) (by rw [hdecimal]; decide)
      rw [hlength, hnone] at hkept
      exact hc hkept.eq_none
    exact (hbc.scale hdecimal hc).trans (hab.scale hbname hblength)

/-- Two changes that lengthen a text make one that does. -/
theorem Lengthens.trans {a b c : ColumnType} (hab : Lengthens a b) (hbc : Lengthens b c) :
    Lengthens a c := by
  obtain ⟨o, m, ho, hm, hom, hbytes⟩ := hab.lengths
  obtain ⟨m', n, hm', hn, hmn, hbytes'⟩ := hbc.lengths
  cases hm.symm.trans hm'
  exact ⟨hab.old_name, hbc.new_name, o, n, ho, hn, Nat.le_trans hom hmn, hbytes' ∘ hbytes⟩

end TypeChange

/-! ## Written types -/

theorem requirementOf_eq {engine : Engine} {a b : String} {old new : ColumnType}
    (ha : ColumnType.parse a = .ok old) (hb : ColumnType.parse b = .ok new) :
    TypeChange.requirementOf engine a b = .ok (TypeChange.requirement engine old new) := by
  rw [TypeChange.requirementOf, ha, hb]
  rfl

theorem isPostgres_eq_false_iff {engine : Engine} :
    engine.isPostgres = false ↔ engine.isMysqlFamily = true := by
  rw [Engine.isPostgres, Engine.isMysqlFamily]
  cases engine.kind <;> decide

theorem Requirement.ne_never_iff {r : Requirement} (h : r ≠ .always) :
    r ≠ .never ↔ ∃ feature, r = .feature feature := by
  cases r with
  | never => exact ⟨fun hne => absurd rfl hne, nofun⟩
  | always => exact absurd rfl h
  | feature name => exact ⟨fun _ => ⟨name, rfl⟩, fun _ => nofun⟩

/-- What is allowed between two written types that differ. On an engine of the MySQL family it is to
lengthen a text whose length takes as many bytes as before; on Postgres it is to widen a type within
one of the relations. Nothing else is allowed. -/
theorem allowed_iff_widens {engine : Engine} {a b : String} {old new : ColumnType}
    (ha : ColumnType.parse a = .ok old) (hb : ColumnType.parse b = .ok new) (hne : old ≠ new) :
    ∃ r, TypeChange.requirementOf engine a b = .ok r ∧
      (engine.isMysqlFamily = true → (r ≠ .never ↔ TypeChange.Lengthens old new)) ∧
      (engine.isPostgres = true →
        (r ≠ .never ↔ ∃ feature, TypeChange.Widens engine.timeZone old new feature)) := by
  refine ⟨_, requirementOf_eq ha hb, fun hmysql => ?_, fun hpostgres => ?_⟩
  · rw [TypeChange.requirement, isPostgres_eq_false_iff.mpr hmysql, if_neg Bool.false_ne_true,
      Requirement.ne_never_iff (hne ∘ TypeChange.onMysql_eq_always_iff.mp)]
    simp only [TypeChange.onMysql_eq_feature_iff hne, exists_and_left, exists_eq, and_true]
  · rw [TypeChange.requirement, if_pos hpostgres,
      Requirement.ne_never_iff (hne ∘ TypeChange.onPostgres_eq_always_iff.mp)]
    simp only [TypeChange.onPostgres_eq_feature_iff hne]

/-- A precision that is raised while a time zone is added is allowed on Postgres in a session in
UTC; a text that grows over the length of one byte is not allowed on MySQL. -/
theorem allowed_iff_widens_atLimits :
    (∃ r, TypeChange.requirementOf ⟨.postgres, none, "Etc/Utc"⟩ "timestamp(3)"
        "TIMESTAMP (6) with time zone" = .ok r ∧ r ≠ .never) ∧
      TypeChange.requirementOf ⟨.mysql, none, "UTC"⟩ "varchar(63)" "varchar(64)" = .ok .never := by
  have hplain : ColumnType.parse "timestamp(3)" = .ok ⟨"timestamp", [3]⟩ := rfl
  have hzoned : ColumnType.parse "TIMESTAMP (6) with time zone" = .ok ⟨"timestamptz", [6]⟩ := rfl
  have hshort : ColumnType.parse "varchar(63)" = .ok ⟨"varchar", [63]⟩ := rfl
  have hlong : ColumnType.parse "varchar(64)" = .ok ⟨"varchar", [64]⟩ := rfl
  obtain ⟨r, hr, -, hallowed⟩ :=
    @allowed_iff_widens ⟨.postgres, none, "Etc/Utc"⟩ _ _ _ _ hplain hzoned (by decide)
  obtain ⟨r', hr', hrefused, -⟩ :=
    @allowed_iff_widens ⟨.mysql, none, "UTC"⟩ _ _ _ _ hshort hlong (by decide)
  refine ⟨⟨r, hr, (hallowed rfl).mpr ⟨TypeChange.timestampConversion, ?_⟩⟩, ?_⟩
  · have hutc : "Etc/Utc".map Char.toUpper = "ETC/UTC" := by
      rw [← String.toList_inj, String.toList_map]
      rfl
    exact ⟨by decide, fun _ => hutc ▸ .tail _ (.head _),
      fun _ _ => .limited (by decide), fun h => absurd h (by decide)⟩
  · have hnot : ¬TypeChange.Lengthens ⟨"varchar", [63]⟩ ⟨"varchar", [64]⟩ := by
      rintro ⟨-, -, o, n, ho, hn, -, hbytes⟩
      cases ho
      cases hn
      exact absurd (hbytes (by decide)) (by decide)
    rw [hr', Classical.not_not.mp (mt (hrefused rfl).mp hnot)]

end MigrationSafety
