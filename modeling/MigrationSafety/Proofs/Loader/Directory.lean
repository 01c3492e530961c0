import Mathlib
import MigrationSafety.Loader.Directory
import MigrationSafety.Proofs.Analysis.StartAfter
import MigrationSafety.Proofs.Loader.Record
import MigrationSafety.Proofs.Sorting

/-!
# The migrations of a directory

The files of a directory are imported in the order of their names, which is not the order in which
their migrations run: `10_b.py` is imported before `9_a.py`. What is loaded is one migration for
each file that defines one, in strict order of number and name, and the order in which the directory
lists its files has no part in it. So settings that name the last applied migration leave out the
migrations up to that number and name.

* `NamesMigration`, `migrationName?_eq_some`: the names of migration files;
* `Imported`, `importEntry_cases`: what a file gives;
* `ListsMigrations`: the migrations of a directory, one for each file that defines one, in strict
  order;
* `loadEntries_listsMigrations`, `loadEntries_eq_of_perm`: they are what is loaded, whatever the
  order of the files;
* `ListsMigrations.reported`: those after the last applied one;
* `loadDirectory_listsMigrations`: all of this.
-/

namespace MigrationSafety

/-! ## Names of migration files -/

/-- Whether a file is named as one with a migration: digits of any script, an underscore, at least
one more character, none of them the end of a line, and the ending. The name of the migration is
what stands before the ending. -/
def NamesMigration (file : String) (number : Nat) (name : String) : Prop :=
  ∃ (digits rest : List Char) (values : List Nat),
    List.Forall₂ (fun c n => Text.digitValue? c = some n) digits values ∧ digits ≠ [] ∧
      rest ≠ [] ∧ '\n' ∉ rest ∧ number = Nat.ofDigits 10 values.reverse ∧
      name = String.ofList (digits ++ '_' :: rest) ∧ file = name ++ ".py"

theorem Text.ofDigits_eq_reverse (values : List Nat) :
    Text.ofDigits values = Nat.ofDigits 10 values.reverse := by
  rw [Text.ofDigits, Nat.ofDigits_eq_foldr, List.foldr_reverse]
  congr 1
  funext n d
  exact Nat.add_comm _ _

/-- The characters of a list are digits with the given values. -/
theorem forall₂_digits_iff {digits : List Char} {values : List Nat} :
    List.Forall₂ (fun c n => Text.digitValue? c = some n) digits values ↔
      (∀ c ∈ digits, Text.isDigit c = true) ∧ digits.filterMap Text.digitValue? = values := by
  induction digits generalizing values with
  | nil =>
    rw [List.forall₂_nil_left_iff, List.filterMap_nil]
    exact ⟨fun h => ⟨nofun, h.symm⟩, fun h => h.2.symm⟩
  | cons c digits ih =>
    rw [List.forall₂_cons_left_iff, List.forall_mem_cons]
    simp only [ih]
    constructor
    · rintro ⟨n, ns, hn, ⟨hdigits, rfl⟩, rfl⟩
      exact ⟨⟨Option.isSome_of_eq_some hn, hdigits⟩, List.filterMap_cons_some hn⟩
    · rintro ⟨⟨hc, hdigits⟩, rfl⟩
      obtain ⟨n, hn⟩ := Option.isSome_iff_exists.mp hc
      exact ⟨n, _, hn, ⟨hdigits, rfl⟩, List.filterMap_cons_some hn⟩

theorem takeWhile_digits {digits rest : List Char} (h : ∀ c ∈ digits, Text.isDigit c = true) :
    (digits ++ '_' :: rest).takeWhile Text.isDigit = digits := by
  have hunderscore : Text.isDigit '_' ≠ true := by decide
  rw [List.takeWhile_append_of_pos h, List.takeWhile_cons_of_neg hunderscore, List.append_nil]

theorem NamesMigration.migrationName?_eq {file : String} {number : Nat} {name : String}
    (h : NamesMigration file number name) : migrationName? file = some (number, name) := by
  obtain ⟨digits, rest, values, hvalues, hdigits, hrest, hline, rfl, rfl, rfl⟩ := h
  obtain ⟨hdigit, rfl⟩ := forall₂_digits_iff.mp hvalues
  have hchars : (String.ofList (digits ++ '_' :: rest) ++ ".py").toList =
      digits ++ '_' :: rest ++ scriptEnding.toList := by
    rw [String.toList_append, String.toList_ofList, scriptEnding]
  have htake : (digits ++ '_' :: rest ++ scriptEnding.toList).takeWhile Text.isDigit = digits := by
    rw [List.append_assoc]
    exact takeWhile_digits hdigit
  have hstem : (digits ++ '_' :: rest ++ scriptEnding.toList).take
      ((digits ++ '_' :: rest ++ scriptEnding.toList).length - scriptEnding.length) =
        digits ++ '_' :: rest := by
    rw [List.length_append]
    exact List.take_left' rfl
  rw [migrationName?, hchars]
  simp only [htake, hstem, List.drop_left, ← Text.ofDigits_eq_reverse]
  exact if_pos (by simp [hdigits, hrest, hline])

theorem migrationName?_eq_some {file : String} {number : Nat} {name : String} :
    migrationName? file = some (number, name) ↔ NamesMigration file number name := by
  refine ⟨fun h => ?_, NamesMigration.migrationName?_eq⟩
  rw [migrationName?] at h
  split at h
  case isFalse => cases h
  case isTrue hcond =>
    generalize hstem : file.toList.take (file.toList.length - scriptEnding.length) = stem at hcond h
    generalize hdigits : file.toList.takeWhile Text.isDigit = digits at hcond h
    simp only [Bool.and_eq_true, Bool.not_eq_true', beq_iff_eq, List.isEmpty_eq_false_iff] at hcond
    obtain ⟨⟨⟨⟨hne, hunderscore⟩, hending⟩, hrest⟩, hline⟩ := hcond
    have hprefix : stem <+: file.toList := hstem ▸ List.take_prefix _ _
    have hfile : file.toList = stem ++ scriptEnding.toList :=
      hending ▸ List.prefix_append_drop hprefix
    have hlong : digits.length + 1 < stem.length := by simpa using hrest
    -- The digits and the stem both start the name, so the shorter list starts the longer one.
    obtain ⟨tail, rfl⟩ : digits <+: stem :=
      List.prefix_of_prefix_length_le (hdigits ▸ List.takeWhile_prefix _) hprefix (by omega)
    cases tail with
    | nil => simp at hlong
    | cons c rest =>
      rw [hfile] at hunderscore
      obtain rfl : c = '_' := by simpa using hunderscore
      rw [List.drop_length_add_append, List.drop_succ_cons, List.drop_zero] at hrest hline
      obtain ⟨rfl, rfl⟩ := Prod.mk.inj (Option.some.inj h)
      refine ⟨digits, rest, _, forall₂_digits_iff.mpr ⟨?_, rfl⟩, hne, hrest, by simpa using hline,
        Text.ofDigits_eq_reverse _, rfl, String.toList_inj.mp ?_⟩
      · exact fun c hc => List.mem_takeWhile_imp (hdigits ▸ hc)
      · rw [hfile, String.toList_append, String.toList_ofList, scriptEnding]

/-- Digits of other scripts count, and so do zeros in front. -/
example : migrationName? "٩_c.py" = some (9, "٩_c") ∧
    migrationName? "010_a.py" = some (10, "010_a") ∧ migrationName? "10_.py" = none ∧
    migrationName? "10_b.py\n" = none := by
  decide

/-- The file has the name of the migration, with the ending. -/
theorem NamesMigration.file_eq {file : String} {number : Nat} {name : String}
    (h : NamesMigration file number name) : file = name ++ ".py" := by
  obtain ⟨-, -, -, -, -, -, -, -, -, hfile⟩ := h
  exact hfile

/-! ## What a file gives -/

/-- An entry of a directory that defines a migration: a file with the name of one, and with a
migration in it. -/
def DefinesMigration (entry : String × FileTree) : Prop :=
  (∃ number name, NamesMigration entry.1 number name) ∧
    ∃ operations settings, entry.2 = .script (.migration operations settings)

/-- Whether a numbered migration is what the import of an entry of a directory gives. -/
structure Imported (path : Path) (entry : String × FileTree) (x : Numbered Migration) : Prop where
  named : NamesMigration entry.1 x.number x.name
  imported : (importScript path entry.1 x.name entry.2).outcome = .ok (some x.item)

/-- Whether the import of every migration file succeeds. -/
def ImportsAll (path : Path) (entries : List (String × FileTree)) : Prop :=
  ∀ entry ∈ entries, entry.2.isDirectory = false → ∀ number name,
    NamesMigration entry.1 number name →
      ∃ m, (importScript path entry.1 name entry.2).outcome = .ok m

section
variable {path : Path} {entry : String × FileTree} {file name : String} {tree : FileTree}

/-- A migration comes from a file that defines one, and has the name that the file gives it. -/
theorem importScript_eq_some {m : Migration}
    (h : (importScript path file name tree).outcome = .ok (some m)) :
    m.name = .text name ∧
      ∃ operations settings, tree = .script (.migration operations settings) := by
  cases tree with
  | document bytes => cases h
  | directory entries => cases h
  | script s =>
    cases s with
    | raises why => cases h
    | nothing => cases h
    | migration operations settings =>
      obtain ⟨ops, -, h⟩ := Traced.outcome_bind_eq_ok.mp h
      obtain ⟨m', hm', h⟩ := Traced.outcome_bind_eq_ok.mp h
      cases h
      exact ⟨(Migration.assemble_eq_ok (mapError_eq_ok.mp hm')).1, operations, settings, rfl⟩

/-- A file that defines a migration gives one, unless its import fails. -/
theorem importScript_ne_none {operations : DeclaredOperations}
    {settings : List (String × Value)} :
    (importScript path file name (.script (.migration operations settings))).outcome ≠
      .ok none := by
  intro h
  obtain ⟨ops, -, h⟩ := Traced.outcome_bind_eq_ok.mp h
  obtain ⟨m, -, h⟩ := Traced.outcome_bind_eq_ok.mp h
  cases h

theorem importEntry_of_named {number : Nat} (hfile : tree.isDirectory = false)
    (hname : migrationName? file = some (number, name)) :
    importEntry path (file, tree) = importScript path file name tree >>= fun m =>
      pure (m.map fun m => ⟨number, name, m⟩) := by
  cases tree with
  | directory entries => cases hfile
  | document bytes => simp only [importEntry, hname]
  | script s => simp only [importEntry, hname]

theorem importEntry_of_unnamed (hname : migrationName? file = none) :
    importEntry path (file, tree) = pure none := by
  cases tree with
  | directory entries => rfl
  | document bytes => simp only [importEntry, hname]
  | script s => simp only [importEntry, hname]

/-- What the import of an entry is: that of the file if it has the name of a migration file, and
nothing otherwise. -/
theorem importEntry_cases (path : Path) (entry : String × FileTree) :
    ((importEntry path entry).outcome = .ok none ∧ ¬ DefinesMigration entry) ∨
      ∃ number name, entry.2.isDirectory = false ∧ NamesMigration entry.1 number name ∧
        (importEntry path entry).outcome = (importScript path entry.1 name entry.2).outcome.bind
          fun m => .ok (m.map fun m => ⟨number, name, m⟩) := by
  obtain ⟨file, tree⟩ := entry
  cases hdirectory : tree.isDirectory with
  | true =>
    cases tree with
    | directory entries =>
      refine .inl ⟨rfl, ?_⟩
      rintro ⟨-, operations, settings, hscript⟩
      cases hscript
    | document bytes => cases hdirectory
    | script s => cases hdirectory
  | false =>
    cases hname : migrationName? file with
    | none =>
      refine .inl ⟨by rw [importEntry_of_unnamed hname]; rfl, ?_⟩
      rintro ⟨⟨number, name, hnamed⟩, -⟩
      rw [hnamed.migrationName?_eq] at hname
      cases hname
    | some numbered =>
      obtain ⟨number, name⟩ := numbered
      refine .inr ⟨number, name, rfl, migrationName?_eq_some.mp hname, ?_⟩
      rw [importEntry_of_named hdirectory hname]
      exact Traced.outcome_bind _ _

theorem importEntry_eq_some {x : Numbered Migration}
    (h : (importEntry path entry).outcome = .ok (some x)) :
    DefinesMigration entry ∧ Imported path entry x := by
  rcases importEntry_cases path entry with ⟨hnone, -⟩ | ⟨number, name, -, hnamed, heq⟩
  · rw [hnone] at h
    cases h
  · rw [heq] at h
    obtain ⟨m, hm, hx⟩ := bind_eq_ok.mp h
    cases m with
    | none => cases hx
    | some m =>
      cases hx
      exact ⟨⟨⟨number, name, hnamed⟩, (importScript_eq_some hm).2⟩, hnamed, hm⟩

theorem importEntry_eq_none (h : (importEntry path entry).outcome = .ok none) :
    ¬ DefinesMigration entry := by
  rcases importEntry_cases path entry with ⟨-, hdefines⟩ | ⟨number, name, -, -, heq⟩
  · exact hdefines
  · rw [heq] at h
    obtain ⟨m, hm, hx⟩ := bind_eq_ok.mp h
    cases m with
    | some m => cases hx
    | none =>
      rintro ⟨-, operations, settings, hscript⟩
      rw [hscript] at hm
      exact importScript_ne_none hm

theorem importEntry_total {entries : List (String × FileTree)} (h : ImportsAll path entries)
    (hentry : entry ∈ entries) : ∃ o, (importEntry path entry).outcome = .ok o := by
  rcases importEntry_cases path entry with ⟨hnone, -⟩ | ⟨number, name, hfile, hnamed, heq⟩
  · exact ⟨none, hnone⟩
  · obtain ⟨m, hm⟩ := h entry hentry hfile number name hnamed
    exact ⟨_, heq.trans (bind_eq_ok.mpr ⟨m, hm, rfl⟩)⟩

end

/-! ## What files give together -/

/-- Items of a list of which some give something, and what they give. -/
theorem exists_forall₂_filterMap {α β : Type} {R : α → Option β → Prop} {S : α → β → Prop}
    {P : α → Prop} {as : List α} {os : List (Option β)} (h : List.Forall₂ R as os)
    (hsome : ∀ a b, R a (some b) → P a ∧ S a b) (hnone : ∀ a, R a none → ¬ P a) :
    ∃ kept : List α, kept.Sublist as ∧ (∀ a, a ∈ kept ↔ a ∈ as ∧ P a) ∧
      List.Forall₂ S kept (os.filterMap id) := by
  induction h with
  | nil => exact ⟨[], .slnil, by simp, .nil⟩
  | @cons a o as os hao _ ih =>
    obtain ⟨kept, hsub, hmem, hkept⟩ := ih
    cases o with
    | none =>
      have ha := hnone a hao
      refine ⟨kept, hsub.cons a, fun b => ?_, hkept⟩
      rw [hmem, List.mem_cons]
      exact ⟨fun ⟨hb, hP⟩ => ⟨.inr hb, hP⟩,
        fun ⟨hb, hP⟩ => ⟨hb.resolve_left fun heq => ha (heq ▸ hP), hP⟩⟩
    | some b =>
      obtain ⟨ha, hab⟩ := hsome a b hao
      refine ⟨a :: kept, hsub.cons_cons a, fun c => ?_, .cons hab hkept⟩
      rw [List.mem_cons, List.mem_cons, hmem]
      constructor
      · rintro (rfl | ⟨hc, hP⟩)
        · exact ⟨.inl rfl, ha⟩
        · exact ⟨.inr hc, hP⟩
      · rintro ⟨rfl | hc, hP⟩
        · exact .inl rfl
        · exact .inr ⟨hc, hP⟩

/-- What is related to items keeps a partner when it is put in another order. -/
theorem exists_perm_forall₂ {α β : Type} {R : α → β → Prop} {as : List α} {bs bs' : List β}
    (h : List.Forall₂ R as bs) (hperm : bs.Perm bs') :
    ∃ as', as.Perm as' ∧ List.Forall₂ R as' bs' := by
  have hcomp : Relation.Comp (List.Forall₂ R) List.Perm as bs' := ⟨bs, h, hperm⟩
  rwa [List.forall₂_comp_perm_eq_perm_comp_forall₂] at hcomp

/-- Whether one migration stands before another one: by number, then by name. -/
def Numbered.Before {α : Type} (a b : Numbered α) : Prop :=
  a.number < b.number ∨ a.number = b.number ∧ a.name < b.name

/-- Whether numbered migrations are those of a directory: one for each file that defines one, in
strict order. -/
structure ListsMigrations (path : Path) (entries : List (String × FileTree))
    (loaded : List (Numbered Migration)) : Prop where
  files : ∃ files : List (String × FileTree), files.Nodup ∧
    (∀ entry, entry ∈ files ↔ entry ∈ entries ∧ DefinesMigration entry) ∧
    List.Forall₂ (Imported path) files loaded
  ordered : loaded.Pairwise Numbered.Before

/-- The number and the name of a migration, compared lexicographically. -/
def Numbered.key {α : Type} (x : Numbered α) : Nat ×ₗ String :=
  toLex (x.number, x.name)

theorem Numbered.before_iff {α : Type} {a b : Numbered α} : a.Before b ↔ a.key < b.key := by
  rw [Before, key, key, Prod.Lex.toLex_lt_toLex]

theorem Numbered.notAfter_iff {α : Type} (a b : Numbered α) :
    a.notAfter b = true ↔ a.key ≤ b.key := by
  simp only [notAfter, key, Prod.Lex.toLex_le_toLex, Bool.or_eq_true, Bool.and_eq_true,
    decide_eq_true_eq, beq_iff_eq, Bool.not_eq_true', decide_eq_false_iff_not, not_lt]

section
variable {path : Path} {entries : List (String × FileTree)} {loaded : List (Numbered Migration)}

/-- Files with different names give migrations with different names. -/
theorem nodup_names {files : List (String × FileTree)}
    (h : List.Forall₂ (Imported path) files loaded) (hnodup : (files.map Prod.fst).Nodup) :
    (loaded.map (·.name)).Nodup := by
  have hfiles : files.map Prod.fst = (loaded.map (·.name)).map (· ++ ".py") := by
    rw [List.map_map]
    exact map_eq_of_forall₂ h fun _ _ hx => hx.named.file_eq
  exact List.Nodup.of_map (· ++ ".py") (hfiles ▸ hnodup)

/-- The migrations of a directory have different names. -/
theorem ListsMigrations.nodup (h : ListsMigrations path entries loaded)
    (hnodup : (entries.map Prod.fst).Nodup) : (loaded.map (·.name)).Nodup := by
  obtain ⟨files, hfiles, hmem, himported⟩ := h.files
  refine nodup_names himported (hfiles.map_on fun a ha b hb hab => ?_)
  exact List.inj_on_of_nodup_map hnodup ((hmem a).mp ha).1 ((hmem b).mp hb).1 hab

/-- A migration has the name that its file gives it. -/
theorem ListsMigrations.name_item (h : ListsMigrations path entries loaded)
    {x : Numbered Migration} (hx : x ∈ loaded) : x.item.name = .text x.name := by
  obtain ⟨files, -, -, himported⟩ := h.files
  obtain ⟨entry, -, hentry⟩ := exists_of_forall₂ himported hx
  exact (importScript_eq_some hentry.imported).1

/-! ## The migrations of a directory -/

/-- The order in which a directory lists its files has no part in what is loaded. -/
theorem loadEntries_eq_of_perm {listed : List (String × FileTree)} (hperm : listed.Perm entries)
    (hnodup : (entries.map Prod.fst).Nodup) :
    loadEntries path listed = loadEntries path entries := by
  have hle (a b : String × FileTree) : (!decide (b.1 < a.1)) = true ↔ a.1 ≤ b.1 := by
    rw [Bool.not_eq_true', decide_eq_false_iff_not, not_lt]
  rw [loadEntries, loadEntries, mergeSort_eq_of_perm hle hperm.symm hnodup]

/-- What is loaded from the entries of a directory. -/
theorem loadEntries_listsMigrations (hnodup : (entries.map Prod.fst).Nodup)
    (himport : ImportsAll path entries) :
    ∃ loaded, ListsMigrations path entries loaded ∧
      (loadEntries path entries).outcome = .ok ⟨loaded.map (·.item)⟩ := by
  set sorted := entries.mergeSort fun a b => !decide (b.1 < a.1)
  have hperm : sorted.Perm entries := List.mergeSort_perm _ _
  obtain ⟨imported, himported⟩ : ∃ imported,
      (Traced.forEach (importEntry path) sorted).outcome = .ok imported :=
    Traced.forEach_total fun entry hentry => importEntry_total himport (hperm.mem_iff.mp hentry)
  obtain ⟨kept, hsub, hmem, hkept⟩ := exists_forall₂_filterMap
    (Traced.outcome_forEach_eq_ok.mp himported) (fun _ _ => importEntry_eq_some)
    fun _ => importEntry_eq_none
  have hnames : (kept.map Prod.fst).Nodup :=
    (hsub.map Prod.fst).nodup ((hperm.map Prod.fst).nodup_iff.mpr hnodup)
  set loaded := (imported.filterMap id).mergeSort Numbered.notAfter
  -- Files were imported by name, and their migrations are in order of number.
  obtain ⟨files, hfiles, hforall⟩ : ∃ files, kept.Perm files ∧
      List.Forall₂ (Imported path) files loaded :=
    exists_perm_forall₂ hkept (List.mergeSort_perm _ _).symm
  refine ⟨loaded, ⟨⟨files, hfiles.nodup_iff.mp hnames.of_map, fun entry => ?_, hforall⟩, ?_⟩, ?_⟩
  · rw [← hfiles.mem_iff, hmem, hperm.mem_iff]
  · refine (mergeSort_lt_of_key Numbered.notAfter_iff ?_).imp Numbered.before_iff.mpr
    refine List.Nodup.of_map (fun k => (ofLex k).2) ?_
    rw [List.map_map]
    exact nodup_names hkept hnames
  · exact Traced.outcome_bind_eq_ok.mpr ⟨imported, himported, rfl⟩

/-- A migration is the first one with its name. -/
theorem ListsMigrations.firstNamed (h : ListsMigrations path entries loaded)
    (hnodup : (entries.map Prod.fst).Nodup) {a : Nat} {x : Numbered Migration}
    (hx : loaded[a]? = some x) : (Plan.mk (loaded.map (·.item))).FirstNamed x.name a := by
  constructor
  case named =>
    refine ⟨x.item, ?_, h.name_item (List.mem_of_getElem? hx)⟩
    rw [List.getElem?_map, hx, Option.map_some]
  case first =>
    intro i hi m hm hname
    rw [List.getElem?_map, Option.map_eq_some_iff] at hm
    obtain ⟨y, hy, rfl⟩ := hm
    rw [h.name_item (List.mem_of_getElem? hy), Value.text.injEq] at hname
    have hsame : (loaded.map (·.name))[i]? = (loaded.map (·.name))[a]? := by
      rw [List.getElem?_map, List.getElem?_map, hx, hy, Option.map_some, Option.map_some, hname]
    have hlength : i < (loaded.map (·.name)).length := by
      rw [List.length_map]
      exact (List.getElem?_eq_some_iff.mp hy).1
    have heq : i = a := (List.getElem?_inj hlength (h.nodup hnodup)).mp hsame
    omega

/-- With a migration as the last applied one, those with a greater number and name are reported. -/
theorem ListsMigrations.reported (h : ListsMigrations path entries loaded)
    (hnodup : (entries.map Prod.fst).Nodup) {config : Config} {a : Nat} {x : Numbered Migration}
    (hx : loaded[a]? = some x) (hstart : config.startAfter = some x.name) :
    ∃ reported, config.reported (loaded.map (·.item.name)) = .ok reported ∧
      ∀ i, i ∈ reported ↔ ∃ y, loaded[i]? = some y ∧ x.Before y := by
  have hfrom : config.ReportsFrom ⟨loaded.map (·.item)⟩ (a + 1) := by
    rw [Config.ReportsFrom, hstart]
    exact ⟨a, h.firstNamed hnodup hx, rfl⟩
  have hreported := reported_of_reportsFrom hfrom
  rw [List.map_map] at hreported
  refine ⟨_, hreported, fun i => ?_⟩
  have hordered := h.ordered.imp Numbered.before_iff.mp
  rw [Plan.mem_reportedFrom, List.length_map]
  constructor
  · rintro ⟨hi, hlength⟩
    refine ⟨loaded[i], List.getElem?_eq_getElem hlength, Numbered.before_iff.mpr ?_⟩
    exact (key_lt_iff_of_pairwise hordered hx (List.getElem?_eq_getElem hlength)).mpr hi
  · rintro ⟨y, hy, hbefore⟩
    refine ⟨?_, (List.getElem?_eq_some_iff.mp hy).1⟩
    exact (key_lt_iff_of_pairwise hordered hx hy).mp (Numbered.before_iff.mp hbefore)

end

/-- Loading a directory loses nothing and orders by number. Where every import succeeds, what is
loaded is one migration for each file that defines one, under the name of the file and in strict
order of number and name, whatever the order in which the directory lists its files. With one of the
migrations as the last applied one, those with a greater number and name are reported. -/
theorem loadDirectory_listsMigrations {path : Path} {entries : List (String × FileTree)}
    (hnodup : (entries.map Prod.fst).Nodup) (himport : ImportsAll path entries) :
    ∃ loaded : List (Numbered Migration), ListsMigrations path entries loaded ∧
      (∀ x ∈ loaded, x.item.name = .text x.name) ∧
      (∀ (disk : Disk) (listed : List (String × FileTree)), listed.Perm entries →
        disk.entries? path = some listed →
          (loadDirectory disk path).outcome = .ok ⟨loaded.map (·.item)⟩) ∧
      ∀ (config : Config) (a : Nat) (x : Numbered Migration), loaded[a]? = some x →
        config.startAfter = some x.name →
          ∃ reported, config.reported (loaded.map (·.item.name)) = .ok reported ∧
            ∀ i, i ∈ reported ↔ ∃ y, loaded[i]? = some y ∧ x.Before y := by
  obtain ⟨loaded, hlists, hloaded⟩ := loadEntries_listsMigrations hnodup himport
  refine ⟨loaded, hlists, fun x hx => hlists.name_item hx, fun disk listed hperm hdisk => ?_,
    fun config a x hx hstart => hlists.reported hnodup hx hstart⟩
  rw [loadDirectory, hdisk, ← hloaded]
  exact congrArg _ (loadEntries_eq_of_perm hperm hnodup)

/-- A file with a migration that does nothing. -/
def emptyScript : FileTree := .script (.migration (.built []) [])

/-- A directory whose numbers do not have the same width, with a directory and a script that define
no migration. -/
def mixedNumbers : List (String × FileTree) :=
  [("010_a.py", emptyScript), ("10_b.py", emptyScript), ("11_old.py", .empty),
    ("8_no.py", .script .nothing), ("9_a.py", emptyScript)]

theorem importsAll_mixedNumbers (path : Path) : ImportsAll path mixedNumbers := by
  simp only [ImportsAll, mixedNumbers, List.forall_mem_cons]
  exact ⟨fun _ _ _ _ => ⟨_, rfl⟩, fun _ _ _ _ => ⟨_, rfl⟩, nofun, fun _ _ _ _ => ⟨_, rfl⟩,
    fun _ _ _ _ => ⟨_, rfl⟩, nofun⟩

theorem loadEntries_mixedNumbers :
    (loadEntries ⟨"", ["migrations"]⟩ mixedNumbers).outcome.map
        (fun p => p.migrations.map (·.name)) =
      .ok [.text "9_a", .text "010_a", .text "10_b"] := by
  cbv

/-- The smallest number comes first, although its file is imported last, and a number written with
more digits stands where its value puts it. With `010_a` applied, what stands behind it is
reported. -/
theorem loadDirectory_listsMigrations_mixedNumbers :
    ∃ loaded x reported, ListsMigrations ⟨"", ["migrations"]⟩ mixedNumbers loaded ∧
      loaded.map (·.item.name) = [.text "9_a", .text "010_a", .text "10_b"] ∧
      (loadDirectory (.single (.ok (.directory mixedNumbers.reverse)))
        ⟨"", ["migrations"]⟩).outcome = .ok ⟨loaded.map (·.item)⟩ ∧
      loaded[1]? = some x ∧
      ({ startAfter := some "010_a" } : Config).reported (loaded.map (·.item.name)) =
        .ok reported ∧
      ∀ i, i ∈ reported ↔ ∃ y, loaded[i]? = some y ∧ x.Before y := by
  have hdistinct : (mixedNumbers.map Prod.fst).Nodup := by decide
  obtain ⟨loaded, hlists, hname, hloaded, hreported⟩ :=
    loadDirectory_listsMigrations hdistinct (importsAll_mixedNumbers ⟨"", ["migrations"]⟩)
  have hnames : loaded.map (·.item.name) = [.text "9_a", .text "010_a", .text "10_b"] := by
    have hplan : (loadEntries ⟨"", ["migrations"]⟩ mixedNumbers).outcome =
        .ok ⟨loaded.map (·.item)⟩ :=
      hloaded (.single (.ok (.directory mixedNumbers))) _ (.refl _) rfl
    have h := loadEntries_mixedNumbers
    rw [hplan] at h
    exact List.map_map.symm.trans (Except.ok.inj h)
  have hsecond : (loaded.map (·.item.name))[1]? = some (.text "010_a") := by rw [hnames]; rfl
  rw [List.getElem?_map, Option.map_eq_some_iff] at hsecond
  obtain ⟨x, hx, hxname⟩ := hsecond
  rw [hname x (List.mem_of_getElem? hx), Value.text.injEq] at hxname
  obtain ⟨reported, hok, hmem⟩ :=
    hreported { startAfter := some "010_a" } 1 x hx (congrArg some hxname.symm)
  exact ⟨loaded, x, reported, hlists, hnames,
    hloaded _ mixedNumbers.reverse (List.reverse_perm _) rfl, hx, hok, hmem⟩

end MigrationSafety
