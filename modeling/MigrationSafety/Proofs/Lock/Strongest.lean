import MigrationSafety.Lock.KnowledgeBase

/-!
# The lock that stands for several

Of several locks of one engine family the strongest one stands for all. The modes of Postgres do not
block more and more requests as they get stronger: `SHARE UPDATE EXCLUSIVE` excludes `SHARE`, which
is stronger and does not exclude itself. But the requests of readers and of writers are blocked from
some strength on, and so by the strongest lock of a list exactly if one of the list blocks them.

* `IsStrongest`: a member of a list that no other one exceeds; `IsStrongest.unique`: there is one
  such lock at most;
* `strongest?_eq_some_iff`: that lock is the one that stands for the list;
* `blocksReads_mono`, `blocksWrites_mono`: what blocks readers and writers;
* `strongest?_standsFor`: what the lock that stands for a list has of the list.
-/

namespace MigrationSafety

namespace LockMode

theorem strength_injective {a b : LockMode} (h : a.strength = b.strength) : a = b := by
  cases a <;> cases b <;> first | rfl | exact absurd h (by decide)

/-- Only the strongest mode blocks readers. -/
theorem conflicts_accessShare_iff (m : LockMode) :
    m.conflicts .accessShare = true ↔ accessExclusive.strength ≤ m.strength := by
  cases m <;> decide

/-- The modes from `SHARE` on block writers. -/
theorem conflicts_rowExclusive_iff (m : LockMode) :
    m.conflicts .rowExclusive = true ↔ share.strength ≤ m.strength := by
  cases m <;> decide

end LockMode

namespace Lock

/-! ## Locks of one family -/

/-- All locks are of one engine family: modes of Postgres, or states of the MySQL family. -/
def OneFamily (locks : List Lock) : Prop :=
  (∀ l ∈ locks, l.isMode = true) ∨ ∀ l ∈ locks, l.isMode = false

instance (locks : List Lock) : Decidable (OneFamily locks) :=
  inferInstanceAs (Decidable (_ ∨ _))

theorem OneFamily.mono {locks others : List Lock} (h : OneFamily locks) (hsub : others ⊆ locks) :
    OneFamily others :=
  h.imp (fun h l hl => h l (hsub hl)) (fun h l hl => h l (hsub hl))

theorem OneFamily.isMode_eq {locks : List Lock} (h : OneFamily locks) {a b : Lock}
    (ha : a ∈ locks) (hb : b ∈ locks) : a.isMode = b.isMode := by
  rcases h with h | h <;> rw [h a ha, h b hb]

/-- The place of a lock in the order of strength of its family. -/
def strength : Lock → Nat
  | .mode m => m.strength
  | .state .blocking => 1
  | .state .nonBlocking => 0

/-- Two locks of one family are equal if they are equally strong. -/
theorem eq_of_strength_eq {a b : Lock} (hfamily : a.isMode = b.isMode)
    (h : a.strength = b.strength) : a = b := by
  match a, b with
  | .mode a, .mode b => rw [LockMode.strength_injective h]
  | .state a, .state b => cases a <;> cases b <;> first | rfl | exact absurd h (by decide)
  | .mode a, .state b => cases hfamily
  | .state a, .mode b => cases hfamily

/-- What blocks readers, every stronger lock of the family blocks as well. -/
theorem blocksReads_mono {a b : Lock} (hfamily : a.isMode = b.isMode)
    (h : a.strength ≤ b.strength) (ha : a.blocksReads = true) : b.blocksReads = true := by
  match a, b with
  | .mode a, .mode b =>
    have hlimit := a.conflicts_accessShare_iff.mp ha
    exact b.conflicts_accessShare_iff.mpr (Nat.le_trans hlimit h)
  | .state a, .state b => cases ha
  | .mode a, .state b => cases hfamily
  | .state a, .mode b => cases hfamily

/-- What blocks writers, every stronger lock of the family blocks as well. -/
theorem blocksWrites_mono {a b : Lock} (hfamily : a.isMode = b.isMode)
    (h : a.strength ≤ b.strength) (ha : a.blocksWrites = true) : b.blocksWrites = true := by
  match a, b with
  | .mode a, .mode b =>
    have hlimit := a.conflicts_rowExclusive_iff.mp ha
    exact b.conflicts_rowExclusive_iff.mpr (Nat.le_trans hlimit h)
  | .state a, .state b =>
    revert h ha
    cases a <;> cases b <;> decide
  | .mode a, .state b => cases hfamily
  | .state a, .mode b => cases hfamily

/-! ## The strongest lock of a list -/

/-- A lock of a list that no lock of the list exceeds. -/
structure IsStrongest (s : Lock) (locks : List Lock) : Prop where
  mem : s ∈ locks
  le : ∀ l ∈ locks, l.strength ≤ s.strength

variable {s t : Lock} {locks others : List Lock}

theorem IsStrongest.unique (hfamily : OneFamily locks) (hs : IsStrongest s locks)
    (ht : IsStrongest t locks) : s = t :=
  eq_of_strength_eq (hfamily.isMode_eq hs.mem ht.mem)
    (Nat.le_antisymm (ht.le s hs.mem) (hs.le t ht.mem))

/-- What is strongest depends on the members of a list only. -/
theorem IsStrongest.congr (h : ∀ l, l ∈ others ↔ l ∈ locks) (hs : IsStrongest s locks) :
    IsStrongest s others where
  mem := (h s).mpr hs.mem
  le l hl := hs.le l ((h l).mp hl)

/-- The strongest lock of some locks may take their place in a list. -/
theorem IsStrongest.of_cons {first : List Lock} (hs : IsStrongest s first)
    (ht : IsStrongest t (s :: locks)) : IsStrongest t (first ++ locks) where
  mem := by
    rcases List.mem_cons.mp ht.mem with rfl | hmem
    · exact List.mem_append_left locks hs.mem
    · exact List.mem_append_right first hmem
  le l hl := by
    rcases List.mem_append.mp hl with hl | hl
    · exact Nat.le_trans (hs.le l hl) (ht.le s List.mem_cons_self)
    · exact ht.le l (List.mem_cons_of_mem s hl)

/-- The stronger one of the strongest locks of two lists is the strongest of both. -/
theorem IsStrongest.append {u : Lock} (hs : IsStrongest s locks) (ht : IsStrongest t others)
    (hu : IsStrongest u [s, t]) : IsStrongest u (locks ++ others) := by
  have hfirst : IsStrongest u (t :: locks) := (hs.of_cons hu).congr fun l => by simp [or_comm]
  exact (ht.of_cons hfirst).congr fun l => by simp [or_comm]

/-- The stronger of two modes. -/
theorem isStrongest_strongerMode (hs : s.isMode = true) (ht : t.isMode = true) :
    IsStrongest (strongerMode s t) [s, t] := by
  match s, t with
  | .mode a, .mode b =>
    rw [strongerMode]
    split
    · exact ⟨by simp, by simp [strength]; omega⟩
    · exact ⟨by simp, by simp [strength]; omega⟩

/-- Going through modes and keeping the stronger one finds the strongest. -/
theorem isStrongest_foldl (h : ∀ l ∈ s :: locks, l.isMode = true) :
    IsStrongest (locks.foldl strongerMode s) (s :: locks) := by
  induction locks generalizing s with
  | nil => exact ⟨List.mem_cons_self, by simp⟩
  | cons l locks ih =>
    have hs : s.isMode = true := h s (by simp)
    have hl : l.isMode = true := h l (by simp)
    have hstep := isStrongest_strongerMode hs hl
    have hstepMode : (strongerMode s l).isMode = true := by
      have hmem := hstep.mem
      simp only [List.mem_cons, List.not_mem_nil, or_false] at hmem
      rcases hmem with heq | heq <;> rw [heq] <;> assumption
    refine hstep.of_cons (ih fun k hk => ?_)
    rcases List.mem_cons.mp hk with rfl | hk
    · exact hstepMode
    · exact h k (by simp [hk])

/-- A list of locks has one that stands for it. -/
theorem exists_strongest? (hne : locks ≠ []) : ∃ s, strongest? locks = some s := by
  cases locks with
  | nil => exact absurd rfl hne
  | cons l locks =>
    rw [strongest?]
    split
    · exact ⟨_, rfl⟩
    · split <;> exact ⟨_, rfl⟩

/-- The state that blocks writers is the stronger one. -/
theorem strength_le_blocking {l : Lock} (h : l.isMode = false) :
    l.strength ≤ (Lock.state .blocking).strength := by
  match l with
  | .state b => cases b <;> decide

theorem eq_nonBlocking {l : Lock} (h : l.isMode = false) (hne : l ≠ .state .blocking) :
    l = .state .nonBlocking := by
  match l with
  | .state .blocking => exact absurd rfl hne
  | .state .nonBlocking => rfl

/-- The lock that stands for a list is the strongest one. -/
theorem isStrongest_of_strongest? (hfamily : OneFamily locks) (h : strongest? locks = some s) :
    IsStrongest s locks := by
  cases locks with
  | nil => cases h
  | cons l locks =>
    rw [strongest?] at h
    split at h
    · rename_i hmodes
      cases h
      exact isStrongest_foldl (List.all_eq_true.mp hmodes)
    · rename_i hmodes
      have hstates : ∀ k ∈ l :: locks, k.isMode = false :=
        hfamily.resolve_left fun hall => hmodes (List.all_eq_true.mpr hall)
      split at h
      · rename_i hblocking
        cases h
        exact ⟨List.contains_iff_mem.mp hblocking, fun k hk => strength_le_blocking (hstates k hk)⟩
      · rename_i hblocking
        cases h
        -- No lock of the list blocks, so all of them are the same.
        have hall : ∀ k ∈ s :: locks, k = .state .nonBlocking := fun k hk =>
          eq_nonBlocking (hstates k hk) fun heq => hblocking (List.contains_iff_mem.mpr (heq ▸ hk))
        refine ⟨List.mem_cons_self, fun k hk => Nat.le_of_eq ?_⟩
        rw [hall k hk, hall s List.mem_cons_self]

theorem strongest?_eq_some_iff (hfamily : OneFamily locks) :
    strongest? locks = some s ↔ IsStrongest s locks := by
  refine ⟨isStrongest_of_strongest? hfamily, fun hs => ?_⟩
  obtain ⟨t, ht⟩ := exists_strongest? (List.ne_nil_of_mem hs.mem)
  rw [ht, hs.unique hfamily (isStrongest_of_strongest? hfamily ht)]

/-! ## What the strongest lock has of its list -/

/-- The strongest lock has every property of a lock of the list that stronger locks of a family
keep. -/
theorem IsStrongest.holds_iff {p : Lock → Bool}
    (hmono : ∀ {a b : Lock}, a.isMode = b.isMode → a.strength ≤ b.strength → p a = true →
      p b = true)
    (hfamily : OneFamily locks) (hs : IsStrongest s locks) :
    p s = true ↔ ∃ l ∈ locks, p l = true := by
  constructor
  · exact fun h => ⟨s, hs.mem, h⟩
  · intro ⟨l, hl, h⟩
    exact hmono (hfamily.isMode_eq hl hs.mem) (hs.le l hl) h

/-- The lock that stands for a list of locks of one family is one of them. It blocks readers if one
of them does, and writers if one of them does. Other lists of the same locks, in any order and with
any of them repeated, have the same one; and where a list is followed by another one of the family,
the lock that stands for both is the one that stands for the locks of the two. -/
theorem strongest?_standsFor (hne : locks ≠ []) (hfamily : OneFamily locks) :
    ∃ s ∈ locks, strongest? locks = some s ∧
      (s.blocksReads = true ↔ ∃ l ∈ locks, l.blocksReads = true) ∧
      (s.blocksWrites = true ↔ ∃ l ∈ locks, l.blocksWrites = true) ∧
      (∀ others, (∀ l, l ∈ others ↔ l ∈ locks) → strongest? others = some s) ∧
      ∀ others, others ≠ [] → OneFamily (locks ++ others) →
        ∃ t, strongest? others = some t ∧ strongest? (locks ++ others) = strongest? [s, t] := by
  obtain ⟨s, hsome⟩ := exists_strongest? hne
  have hs : IsStrongest s locks := isStrongest_of_strongest? hfamily hsome
  refine ⟨s, hs.mem, hsome, hs.holds_iff blocksReads_mono hfamily,
    hs.holds_iff blocksWrites_mono hfamily, fun others hsame => ?_, fun others hne' hboth => ?_⟩
  · have hothers : OneFamily others := hfamily.mono fun l hl => (hsame l).mp hl
    exact (strongest?_eq_some_iff hothers).mpr (hs.congr hsame)
  · obtain ⟨t, htsome⟩ := exists_strongest? hne'
    have ht : IsStrongest t others :=
      isStrongest_of_strongest? (hboth.mono (List.subset_append_right locks others)) htsome
    have hpair : OneFamily [s, t] := hboth.mono fun l hl => by
      simp only [List.mem_cons, List.not_mem_nil, or_false] at hl
      rcases hl with rfl | rfl
      · exact List.mem_append_left others hs.mem
      · exact List.mem_append_right locks ht.mem
    obtain ⟨u, husome⟩ := exists_strongest? (List.cons_ne_nil s [t])
    refine ⟨t, htsome, ?_⟩
    rw [husome, strongest?_eq_some_iff hboth]
    exact hs.append ht (isStrongest_of_strongest? hpair husome)

/-- `SHARE` stands for itself and `SHARE UPDATE EXCLUSIVE`, which excludes it while it does not
exclude itself; it blocks writers, and the other one does not. -/
theorem strongest?_standsFor_notNested :
    LockMode.shareUpdateExclusive.conflicts .share = true ∧
    LockMode.share.conflicts .share = false ∧
    (Lock.mode .share).blocksWrites = true ∧
    (Lock.mode .shareUpdateExclusive).blocksWrites = false ∧
    strongest? [.mode .shareUpdateExclusive, .mode .share, .mode .shareUpdateExclusive] =
      some (.mode .share) ∧
    ∃ t, strongest? [.mode .rowShare, .mode .exclusive] = some t ∧
      strongest? [.mode .shareUpdateExclusive, .mode .share, .mode .rowShare, .mode .exclusive] =
        strongest? [.mode .share, t] := by
  have hfamily : OneFamily [.mode .shareUpdateExclusive, .mode .share] := by decide
  obtain ⟨s, -, hsome, -, -, hsame, happend⟩ := strongest?_standsFor (List.cons_ne_nil _ _) hfamily
  have hshare : strongest? [.mode .shareUpdateExclusive, .mode .share] = some (.mode .share) := by
    decide
  obtain rfl : Lock.mode .share = s := Option.some.inj (hshare.symm.trans hsome)
  refine ⟨by decide, by decide, by decide, by decide, hsame _ fun l => ?_, ?_⟩
  · simp only [List.mem_cons, List.not_mem_nil, or_false]
    grind
  · exact happend [.mode .rowShare, .mode .exclusive] (List.cons_ne_nil _ _) (by decide)

end Lock

end MigrationSafety
