import MigrationLedger.Info

/-!
# Drift

A script has drifted when the newest ledger row that is paired with it records
another checksum than the script has now.  Tombstones and one-shot scripts never
drift.  The older rows of a drifted script are superseded: were they kept, the next
of them would be the newest, and drift in its turn.

## Main definitions

* `MatchedPair` — a discovered migration and a ledger row of the same script.
* `newestFirst`, `newestPerScript` — the matched pairs, newest row first, and the newest per script.
* `selectDrifted` — the drifted and the superseded rows of a list of infos.

## Main results

* `mem_newestFirst`, `exists_mem_firstPerScript` — what the lists hold.
* `mem_drifted`, `mem_superseded` — a drifted row is the newest of its script;
  a superseded one is older than a drifted row of its script.
-/

namespace MigrationLedger

/-- A discovered migration and a ledger row of the same script. -/
structure MatchedPair where
  /-- The discovered side. -/
  resolved : ResolvedMigration
  /-- The ledger side. -/
  applied : AppliedMigration
  /-- Both name the same script. -/
  same_script : resolved.script = applied.script
  deriving DecidableEq

/-- The two sides of an info that is matched. -/
def MigrationInfo.matchedPair? (i : MigrationInfo) : Option MatchedPair :=
  match i.resolved, i.applied with
  | some m, some a => if h : m.script = a.script then some ⟨m, a, h⟩ else none
  | _, _ => none

theorem MigrationInfo.isSome_matchedPair? (i : MigrationInfo) :
    i.matchedPair?.isSome = i.isMatched := by
  obtain ⟨m, a, s⟩ := i
  cases m with
  | none => rfl
  | some m =>
    cases a with
    | none => rfl
    | some a => by_cases h : m.script = a.script <;> simp [matchedPair?, h]

namespace MatchedPair

/-- The script of a pair. -/
def script (p : MatchedPair) : String := p.applied.script

/-- The installed rank of a pair. -/
def rank (p : MatchedPair) : Int32 := p.applied.installedRank

/-- The order of pairs: by rank, then by script. -/
def compareRank : MatchedPair → MatchedPair → Ordering :=
  compareLex (compareOn rank) (compareOn script)

instance : Std.TransCmp compareRank :=
  inferInstanceAs (Std.TransCmp (compareLex (compareOn rank) (compareOn script)))

/-- The opposite order: the newest pair comes first. -/
def compareNewest (p q : MatchedPair) : Ordering := compareRank q p

instance : Std.TransCmp compareNewest where
  eq_swap {p q} := @Std.OrientedCmp.eq_swap _ compareRank _ q p
  isLE_trans {p q r} h₁ h₂ := @Std.TransCmp.isLE_trans _ compareRank _ r q p h₂ h₁

/-- The script starts with the text that marks one-shot scripts. -/
def isOneShot (oneShotPrefix : Option String) (p : MatchedPair) : Bool :=
  oneShotPrefix.any fun s => s.toList.isPrefixOf p.script.toList

/-- The row records another checksum than the script has, and may be purged for it. -/
def isDrifted (oneShotPrefix : Option String) (p : MatchedPair) : Bool :=
  p.applied.checksum != p.resolved.checksum && !p.applied.isTombstone
    && !p.isOneShot oneShotPrefix

end MatchedPair

/-- The first pair of each script. -/
def firstPerScript : List MatchedPair → List MatchedPair
  | [] => []
  | p :: ps => p :: (firstPerScript ps).filter fun q => q.script != p.script

/-- The matched pairs, newest row first. -/
def newestFirst (infos : List MigrationInfo) : List MatchedPair :=
  sortBy MatchedPair.compareNewest (infos.filterMap MigrationInfo.matchedPair?)

/-- The matched pair of the newest row of each script, newest first. -/
def newestPerScript (infos : List MigrationInfo) : List MatchedPair :=
  firstPerScript (newestFirst infos)

/-- The pairs of drifted rows, newest first. -/
def driftedPairs (infos : List MigrationInfo) (oneShotPrefix : Option String) :
    List MatchedPair :=
  (newestPerScript infos).filter (MatchedPair.isDrifted oneShotPrefix)

/-- A row older than one of the pairs and of its script. -/
def isOlderThanSome (ps : List MatchedPair) (p : MatchedPair) : Bool :=
  ps.any fun d => d.script == p.script && decide (p.rank < d.rank)

/-- The pairs of superseded rows, newest first.  Tombstones are kept. -/
def supersededPairs (infos : List MigrationInfo) (oneShotPrefix : Option String) :
    List MatchedPair :=
  (newestFirst infos).filter fun p =>
    !p.applied.isTombstone && isOlderThanSome (driftedPairs infos oneShotPrefix) p

/-- The ledger rows selected for purging. -/
structure DriftSelection where
  /-- The number of matched pairs. -/
  matched : Nat
  /-- The number of scripts among them. -/
  candidates : Nat
  /-- The rows whose scripts changed. -/
  drifted : List AppliedMigration
  /-- The older rows of those scripts. -/
  superseded : List AppliedMigration
  deriving DecidableEq

namespace DriftSelection

/-- All selected rows, in the order in which they are purged. -/
def rows (s : DriftSelection) : List AppliedMigration := s.drifted ++ s.superseded

end DriftSelection

/-- Selects the rows whose scripts changed since they were applied, and their older rows. -/
def selectDrifted (infos : List MigrationInfo) (oneShotPrefix : Option String) :
    DriftSelection where
  matched := (newestFirst infos).length
  candidates := (newestPerScript infos).length
  drifted := (driftedPairs infos oneShotPrefix).map MatchedPair.applied
  superseded := (supersededPairs infos oneShotPrefix).map MatchedPair.applied

/-! ### What the lists hold -/

@[simp] theorem mem_newestFirst {infos : List MigrationInfo} {p : MatchedPair} :
    p ∈ newestFirst infos ↔ ∃ i ∈ infos, i.matchedPair? = some p := by
  simp [newestFirst, List.mem_filterMap]

theorem pairwise_newestFirst (infos : List MigrationInfo) :
    (newestFirst infos).Pairwise fun p q => (MatchedPair.compareNewest p q).isLE = true :=
  pairwise_sortBy _ _

theorem firstPerScript_sublist : ∀ ps : List MatchedPair, (firstPerScript ps).Sublist ps
  | [] => .slnil
  | _ :: ps => (List.filter_sublist.trans (firstPerScript_sublist ps)).cons_cons _

theorem pairwise_firstPerScript :
    ∀ ps : List MatchedPair, (firstPerScript ps).Pairwise fun p q => p.script ≠ q.script
  | [] => .nil
  | p :: ps => by
    refine List.pairwise_cons.2 ⟨fun q hq h => ?_, (pairwise_firstPerScript ps).filter _⟩
    simp [h] at hq

/-- Every script of a list keeps a pair. -/
theorem exists_mem_firstPerScript {ps : List MatchedPair} {p : MatchedPair} (h : p ∈ ps) :
    ∃ q ∈ firstPerScript ps, q.script = p.script := by
  induction ps with
  | nil => simp at h
  | cons a ps ih =>
    by_cases ha : a.script = p.script
    · exact ⟨a, by simp [firstPerScript], ha⟩
    · obtain ⟨q, hq, hs⟩ := ih (by
        rcases List.mem_cons.1 h with rfl | h
        · exact absurd rfl ha
        · exact h)
      exact ⟨q, by simp [firstPerScript, hq, hs, Ne.symm ha], hs⟩

theorem mem_of_mem_newestPerScript {infos : List MigrationInfo} {p : MatchedPair}
    (h : p ∈ newestPerScript infos) : p ∈ newestFirst infos :=
  (firstPerScript_sublist _).subset h

theorem mem_drifted {infos : List MigrationInfo} {oneShotPrefix : Option String}
    {a : AppliedMigration} :
    a ∈ (selectDrifted infos oneShotPrefix).drifted ↔
      ∃ p ∈ newestPerScript infos, p.isDrifted oneShotPrefix = true ∧ p.applied = a := by
  simp [selectDrifted, driftedPairs, and_assoc]

/-- A superseded row is no tombstone and older than a drifted row of its script. -/
theorem mem_superseded {infos : List MigrationInfo} {oneShotPrefix : Option String}
    {a : AppliedMigration} :
    a ∈ (selectDrifted infos oneShotPrefix).superseded ↔
      (∃ p ∈ newestFirst infos, p.applied = a) ∧ a.isTombstone = false ∧
        ∃ d ∈ (selectDrifted infos oneShotPrefix).drifted,
          d.script = a.script ∧ a.installedRank < d.installedRank := by
  simp only [selectDrifted, supersededPairs, List.mem_map, List.mem_filter, isOlderThanSome,
    Bool.and_eq_true, Bool.not_eq_eq_eq_not, Bool.not_true, List.any_eq_true, beq_iff_eq,
    decide_eq_true_eq]
  constructor
  · rintro ⟨p, ⟨hp, ht, d, hd, hs, hr⟩, rfl⟩
    exact ⟨⟨p, hp, rfl⟩, ht, d.applied, ⟨d, hd, rfl⟩, hs, hr⟩
  · rintro ⟨⟨p, hp, rfl⟩, ht, _, ⟨d, hd, rfl⟩, hs, hr⟩
    exact ⟨p, ⟨hp, ht, d, hd, hs, hr⟩, rfl⟩

end MigrationLedger
