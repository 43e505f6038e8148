import Mathlib.Data.Finset.Card
import MigrationLedger.Proofs.Selection

/-!
# The selection on any list of infos

A pass hands the selection the infos of a snapshot, but the selection does not depend on
that.  Whatever infos it is given, with sides that are absent or name different scripts, in
any states, of any ranks and as often as one likes, it goes by the matched ones.  Of each of
their scripts one info leads: that of the greatest rank, and of several of that rank the first
of the list.  What leads and has drifted is selected, and with it every older matched row of
the script that is no tombstone.

## Main definitions

* `MigrationInfo.LeadsScript` — of the matched infos of its script the first of the greatest rank.
* `MigrationInfo.hasDrifted`, `MigrationInfo.IsOutrun` — the script has changed since; the info is
  older than a drifted one that leads its script.
* `IsSelectionOf` — what a selection has to hold, script by script.

## Main results

* `mem_newestPerScript_iff` — the pairs that are kept for their scripts are those of the leading
  infos.
* `exists_leaders`, `supersededPairs_eq` — the selected pairs, read off the infos.
* `selection_is_exact` — **the selection of any list of infos is the one that it has to be.**
-/

namespace MigrationLedger

/-! ### Infos and their scripts -/

namespace MigrationInfo

/-- The order of a listing, backwards. -/
def compareNewest (i j : MigrationInfo) : Ordering := compareRank j i

instance : Std.TransCmp compareNewest where
  eq_swap {i j} := @Std.OrientedCmp.eq_swap _ compareRank _ j i
  isLE_trans {i j k} h₁ h₂ := @Std.TransCmp.isLE_trans _ compareRank _ k j i h₂ h₁

/-- The ledger side marks an earlier entry as removed. -/
def isTombstone (i : MigrationInfo) : Bool := i.applied.any AppliedMigration.isTombstone

/-- The two sides record different checksums, and the row is neither a tombstone nor of a one-shot
script. -/
def hasDrifted (oneShotPrefix : Option String) (i : MigrationInfo) : Bool :=
  i.applied.bind AppliedMigration.checksum != i.resolved.bind ResolvedMigration.checksum
    && !i.isTombstone && !isOneShotScript oneShotPrefix i.script

/-- No matched info of the script has a greater rank, and of those of its rank the info is the
first. -/
def LeadsScript (infos : List MigrationInfo) (i : MigrationInfo) : Prop :=
  (∀ j ∈ infos, j.isMatched = true → j.script = i.script → j.installedRank ≤ i.installedRank) ∧
    infos.find? (fun j => j.isMatched && j.script == i.script
      && j.installedRank == i.installedRank) = some i

/-- The info is matched and no tombstone, and an info of a greater rank leads its script and has
drifted. -/
def IsOutrun (infos : List MigrationInfo) (oneShotPrefix : Option String) (i : MigrationInfo) :
    Prop :=
  i.isMatched = true ∧ i.isTombstone = false ∧
    ∃ d ∈ infos, LeadsScript infos d ∧ d.hasDrifted oneShotPrefix = true ∧
      d.script = i.script ∧ i.installedRank < d.installedRank

instance (infos : List MigrationInfo) (i : MigrationInfo) : Decidable (LeadsScript infos i) :=
  inferInstanceAs (Decidable (_ ∧ _))

instance (infos : List MigrationInfo) (oneShotPrefix : Option String) (i : MigrationInfo) :
    Decidable (IsOutrun infos oneShotPrefix i) :=
  inferInstanceAs (Decidable (_ ∧ _))

variable {infos : List MigrationInfo} {i j : MigrationInfo}

theorem LeadsScript.mem (h : LeadsScript infos i) : i ∈ infos := List.mem_of_find?_eq_some h.2

theorem LeadsScript.isMatched (h : LeadsScript infos i) : i.isMatched = true := by
  have hfound := List.find?_some h.2
  simp only [Bool.and_eq_true] at hfound
  exact hfound.1.1

/-- One info leads a script. -/
theorem LeadsScript.eq (hi : LeadsScript infos i) (hj : LeadsScript infos j)
    (hs : i.script = j.script) : i = j := by
  have hrank : i.installedRank = j.installedRank :=
    Int32.le_antisymm (hj.1 i hi.mem hi.isMatched hs) (hi.1 j hj.mem hj.isMatched hs.symm)
  have hfirst := hi.2
  rw [hs, hrank, hj.2] at hfirst
  exact (Option.some.inj hfirst).symm

/-! ### Infos and their pairs -/

variable {p q : MatchedPair}

theorem matchedPair?_eq_some_iff :
    i.matchedPair? = some p ↔ i.resolved = some p.resolved ∧ i.applied = some p.applied := by
  obtain ⟨m, a, state⟩ := i
  obtain ⟨n, b, hs⟩ := p
  cases m with
  | none => simp [matchedPair?]
  | some m =>
    cases a with
    | none => simp [matchedPair?]
    | some a =>
      simp only [matchedPair?, Option.some.injEq]
      constructor
      · intro h
        split at h
        · simpa using h
        · simp at h
      · rintro ⟨rfl, rfl⟩
        rw [dif_pos hs]

theorem exists_matchedPair?_of_isMatched (h : i.isMatched = true) :
    ∃ p, i.matchedPair? = some p := by
  rw [← isSome_matchedPair?] at h
  exact Option.isSome_iff_exists.1 h

theorem isMatched_of_matchedPair? (h : i.matchedPair? = some p) : i.isMatched = true := by
  rw [← isSome_matchedPair?, h]
  rfl

theorem script_of_matchedPair? (h : i.matchedPair? = some p) : i.script = p.script := by
  rw [script, (matchedPair?_eq_some_iff.1 h).1]
  exact p.same_script

theorem installedRank_of_matchedPair? (h : i.matchedPair? = some p) :
    i.installedRank = p.rank := by
  rw [installedRank, (matchedPair?_eq_some_iff.1 h).2]
  rfl

theorem isTombstone_of_matchedPair? (h : i.matchedPair? = some p) :
    i.isTombstone = p.applied.isTombstone := by
  rw [isTombstone, (matchedPair?_eq_some_iff.1 h).2]
  rfl

theorem hasDrifted_of_matchedPair? (h : i.matchedPair? = some p) (oneShotPrefix : Option String) :
    i.hasDrifted oneShotPrefix = p.isDrifted oneShotPrefix := by
  obtain ⟨hm, ha⟩ := matchedPair?_eq_some_iff.1 h
  rw [hasDrifted, isTombstone_of_matchedPair? h, script_of_matchedPair? h, hm, ha]
  rfl

/-- Pairs stand in the order of their infos. -/
theorem compareNewest_of_matchedPair? (hi : i.matchedPair? = some p)
    (hj : j.matchedPair? = some q) : MatchedPair.compareNewest p q = compareNewest i j := by
  have hpart : ∀ {k : MigrationInfo} {r : MatchedPair}, k.matchedPair? = some r →
      k.part = 0 ∧ k.rankKey = ⟨none, r.script⟩ := by
    intro k r hk
    simp [part, rankKey, (matchedPair?_eq_some_iff.1 hk).2, MatchedPair.script]
  simp only [compareNewest, compareRank, MatchedPair.compareNewest, MatchedPair.compareRank,
    compareLex, compareOn, (hpart hi).1, (hpart hj).1, (hpart hi).2, (hpart hj).2,
    installedRank_of_matchedPair? hi, installedRank_of_matchedPair? hj]
  rfl

end MigrationInfo

open MigrationInfo (LeadsScript IsOutrun matchedPair?_eq_some_iff)

variable {infos : List MigrationInfo} {oneShotPrefix : Option String} {p : MatchedPair}

/-! ### The pairs of the leading infos -/

/-- What is kept for a script is its first pair. -/
theorem mem_firstPerScript_iff_find? {ps : List MatchedPair} :
    p ∈ firstPerScript ps ↔ ps.find? (fun q => q.script == p.script) = some p := by
  induction ps with
  | nil => simp [firstPerScript]
  | cons a ps ih =>
    rw [firstPerScript, List.mem_cons, List.mem_filter, ih, List.find?_cons]
    by_cases hs : a.script = p.script
    · simp [hs, eq_comm]
    · have hne : p ≠ a := fun h => hs (h ▸ rfl)
      rw [beq_eq_false_iff_ne.2 hs]
      simp [Ne.symm hs, hne]

/-- A pair ties with another of its script when both are of one rank. -/
theorem compareNewest_eq_and_script (p q : MatchedPair) :
    (MatchedPair.compareNewest p q == .eq && q.script == p.script)
      = (q.script == p.script && q.rank == p.rank) := by
  rw [Bool.eq_iff_iff]
  simp only [MatchedPair.compareNewest, MatchedPair.compareRank, compareLex, compareOn,
    Bool.and_eq_true, beq_iff_eq, Ordering.then_eq_eq, Std.compare_eq_iff_eq]
  tauto

/-- The infos of the rank and the script of a pair. -/
theorem any_matchedPair?_ties (p : MatchedPair) (j : MigrationInfo) :
    (j.matchedPair?.any fun q => MatchedPair.compareNewest p q == .eq && q.script == p.script)
      = (j.isMatched && j.script == p.script && j.installedRank == p.rank) := by
  cases hj : j.matchedPair? with
  | none =>
    rw [← MigrationInfo.isSome_matchedPair?, hj]
    rfl
  | some q =>
    rw [Option.any_some, compareNewest_eq_and_script, MigrationInfo.isMatched_of_matchedPair? hj,
      MigrationInfo.script_of_matchedPair? hj, MigrationInfo.installedRank_of_matchedPair? hj,
      Bool.true_and]

/-- Pairs of one script stand in the order of their ranks. -/
theorem isLE_compareNewest_iff {q : MatchedPair} (hs : q.script = p.script) :
    (MatchedPair.compareNewest p q).isLE = true ↔ q.rank ≤ p.rank := by
  refine ⟨MatchedPair.rank_le_of_compareNewest, fun hle => ?_⟩
  rw [MatchedPair.compareNewest, MatchedPair.compareRank, compareLex, Ordering.isLE_then_iff_and]
  refine ⟨Std.isLE_compare.2 hle, .inr ?_⟩
  simp [compareOn, hs]

/-- **The pairs that are kept for their scripts are those of the leading infos.** -/
theorem mem_newestPerScript_iff :
    p ∈ newestPerScript infos ↔ ∃ i, LeadsScript infos i ∧ i.matchedPair? = some p := by
  rw [newestPerScript, mem_firstPerScript_iff_find?, ← List.head?_filter, newestFirst,
    filter_sortBy, head?_sortBy_eq_some_iff, tiesOf, List.filter_filter, List.head?_filter,
    List.find?_filterMap, Option.bind_eq_some_iff]
  simp only [any_matchedPair?_ties]
  constructor
  · rintro ⟨hnewest, i, hfirst, hi⟩
    have hs := MigrationInfo.script_of_matchedPair? hi
    have hr := MigrationInfo.installedRank_of_matchedPair? hi
    rw [← hs, ← hr] at hfirst
    refine ⟨i, ⟨fun j hj hmatched hjs => ?_, hfirst⟩, hi⟩
    obtain ⟨q, hq⟩ := MigrationInfo.exists_matchedPair?_of_isMatched hmatched
    have hqs : q.script = p.script :=
      (MigrationInfo.script_of_matchedPair? hq).symm.trans (hjs.trans hs)
    rw [MigrationInfo.installedRank_of_matchedPair? hq, hr, ← isLE_compareNewest_iff hqs]
    exact hnewest q (List.mem_filter.2 ⟨List.mem_filterMap.2 ⟨j, hj, hq⟩, beq_iff_eq.2 hqs⟩)
  · rintro ⟨i, ⟨hgreatest, hfirst⟩, hi⟩
    have hs := MigrationInfo.script_of_matchedPair? hi
    have hr := MigrationInfo.installedRank_of_matchedPair? hi
    rw [hs, hr] at hfirst
    refine ⟨fun q hq => ?_, i, hfirst, hi⟩
    obtain ⟨hmem, hqs⟩ := List.mem_filter.1 hq
    obtain ⟨j, hj, hjq⟩ := List.mem_filterMap.1 hmem
    rw [isLE_compareNewest_iff (beq_iff_eq.1 hqs), ← hr,
      ← MigrationInfo.installedRank_of_matchedPair? hjq]
    refine hgreatest j hj (MigrationInfo.isMatched_of_matchedPair? hjq) ?_
    rw [hs, MigrationInfo.script_of_matchedPair? hjq, beq_iff_eq.1 hqs]

/-! ### The selected pairs -/

/-- The pairs of the infos, newest first, are those of the infos in that order. -/
theorem newestFirst_eq_filterMap (infos : List MigrationInfo) :
    newestFirst infos
      = (sortBy MigrationInfo.compareNewest infos).filterMap MigrationInfo.matchedPair? :=
  sortBy_filterMap (fun _ _ _ _ => MigrationInfo.compareNewest_of_matchedPair?) infos

/-- Matched infos show the rows of their pairs. -/
theorem map_applied_filterMap_matchedPair? {matched : List MigrationInfo}
    (h : ∀ i ∈ matched, i.isMatched = true) :
    matched.map MigrationInfo.applied
      = ((matched.filterMap MigrationInfo.matchedPair?).map MatchedPair.applied).map some := by
  induction matched with
  | nil => rfl
  | cons i matched ih =>
    obtain ⟨p, hp⟩ := MigrationInfo.exists_matchedPair?_of_isMatched (h i List.mem_cons_self)
    rw [List.filterMap_cons_some hp, List.map_cons, List.map_cons, List.map_cons,
      ih fun j hj => h j (List.mem_cons_of_mem _ hj), (matchedPair?_eq_some_iff.1 hp).2]

/-- The pairs that are kept for their scripts stand in a strict order. -/
theorem pairwise_newestPerScript (infos : List MigrationInfo) :
    (newestPerScript infos).Pairwise fun p q => MatchedPair.compareNewest p q = .lt := by
  have hsorted := (pairwise_newestFirst infos).sublist (firstPerScript_sublist _)
  refine pairwise_lt_of_isLE hsorted ((pairwise_firstPerScript _).imp fun {p q} hs hpq => hs ?_)
  rw [MatchedPair.compareNewest, MatchedPair.compareRank, compareLex, Ordering.then_eq_eq] at hpq
  exact (Std.compare_eq_iff_eq.1 hpq.2).symm

/-- The info that leads a script is the first one of its pair. -/
theorem MigrationInfo.LeadsScript.find?_eq {i : MigrationInfo} (h : LeadsScript infos i)
    (hi : i.matchedPair? = some p) :
    infos.find? (fun j => j.matchedPair? == some p) = some i := by
  obtain ⟨-, front, back, hinfos, hfront⟩ := List.find?_eq_some_iff_append.1 h.2
  refine List.find?_eq_some_iff_append.2 ⟨by simp [hi], front, back, hinfos, fun j hj => ?_⟩
  have hother := hfront j hj
  rw [Bool.not_eq_true'] at hother ⊢
  refine Bool.eq_false_iff.2 fun hjp => Bool.eq_false_iff.1 hother ?_
  have hjp := beq_iff_eq.1 hjp
  simp [MigrationInfo.isMatched_of_matchedPair? hjp, MigrationInfo.script_of_matchedPair? hjp,
    MigrationInfo.script_of_matchedPair? hi, MigrationInfo.installedRank_of_matchedPair? hjp,
    MigrationInfo.installedRank_of_matchedPair? hi]

/-- **The drifted pairs are those of the leading infos that have drifted**, newest first. -/
theorem exists_leaders (infos : List MigrationInfo) (oneShotPrefix : Option String) :
    ∃ leaders : List MigrationInfo,
      leaders.filterMap MigrationInfo.matchedPair? = driftedPairs infos oneShotPrefix ∧
      leaders.Pairwise (fun i j => MigrationInfo.compareNewest i j = .lt) ∧
      ∀ i, i ∈ leaders ↔ LeadsScript infos i ∧ i.hasDrifted oneShotPrefix = true := by
  let leader := fun p : MatchedPair => infos.find? fun j => j.matchedPair? == some p
  have hpair : ∀ {p i}, leader p = some i → i.matchedPair? = some p := fun h => by
    simpa using List.find?_some h
  refine ⟨(driftedPairs infos oneShotPrefix).filterMap leader, ?_, ?_, fun i => ?_⟩
  · rw [List.filterMap_filterMap]
    refine (List.filterMap_congr fun p hp => ?_).trans List.filterMap_some
    obtain ⟨i, hleads, hi⟩ := mem_newestPerScript_iff.1 (List.mem_filter.1 hp).1
    rw [show leader p = some i from hleads.find?_eq hi]
    exact hi
  · refine ((pairwise_newestPerScript infos).filter _).filterMap leader ?_
    intro p q hpq i hi j hj
    rw [← MigrationInfo.compareNewest_of_matchedPair? (hpair hi) (hpair hj)]
    exact hpq
  · rw [List.mem_filterMap]
    constructor
    · rintro ⟨p, hp, hi⟩
      obtain ⟨hnewest, hdrift⟩ := List.mem_filter.1 hp
      obtain ⟨j, hleads, hj⟩ := mem_newestPerScript_iff.1 hnewest
      obtain rfl : j = i := Option.some.inj ((hleads.find?_eq hj).symm.trans hi)
      exact ⟨hleads, (MigrationInfo.hasDrifted_of_matchedPair? hj _).trans hdrift⟩
    · rintro ⟨hleads, hdrift⟩
      obtain ⟨p, hp⟩ := MigrationInfo.exists_matchedPair?_of_isMatched hleads.isMatched
      rw [MigrationInfo.hasDrifted_of_matchedPair? hp] at hdrift
      exact ⟨p, List.mem_filter.2 ⟨mem_newestPerScript_iff.2 ⟨i, hleads, hp⟩, hdrift⟩,
        hleads.find?_eq hp⟩

/-- A pair is superseded when its info is outrun. -/
theorem isOutrun_iff {i : MigrationInfo} (hi : i.matchedPair? = some p) :
    IsOutrun infos oneShotPrefix i ↔ p.applied.isTombstone = false ∧
      isOlderThanSome (driftedPairs infos oneShotPrefix) p = true := by
  obtain ⟨leaders, hpairs, -, hmem⟩ := exists_leaders infos oneShotPrefix
  have hs := MigrationInfo.script_of_matchedPair? hi
  have hr := MigrationInfo.installedRank_of_matchedPair? hi
  rw [IsOutrun, MigrationInfo.isTombstone_of_matchedPair? hi, isOlderThanSome, List.any_eq_true,
    ← hpairs, hs, hr]
  constructor
  · rintro ⟨-, htomb, d, -, hleads, hdrift, hds, hlt⟩
    obtain ⟨q, hq⟩ := MigrationInfo.exists_matchedPair?_of_isMatched hleads.isMatched
    rw [MigrationInfo.script_of_matchedPair? hq] at hds
    rw [MigrationInfo.installedRank_of_matchedPair? hq] at hlt
    exact ⟨htomb, q, List.mem_filterMap.2 ⟨d, (hmem d).2 ⟨hleads, hdrift⟩, hq⟩,
      by simp [hds, hlt]⟩
  · rintro ⟨htomb, q, hq, hqp⟩
    obtain ⟨d, hd, hdq⟩ := List.mem_filterMap.1 hq
    obtain ⟨hleads, hdrift⟩ := (hmem d).1 hd
    rw [Bool.and_eq_true, beq_iff_eq, decide_eq_true_eq] at hqp
    rw [← MigrationInfo.script_of_matchedPair? hdq,
      ← MigrationInfo.installedRank_of_matchedPair? hdq] at hqp
    exact ⟨MigrationInfo.isMatched_of_matchedPair? hi, htomb, d, hleads.mem, hleads, hdrift, hqp⟩

/-- **The superseded pairs are those of the infos that are outrun**, newest first. -/
theorem supersededPairs_eq (infos : List MigrationInfo) (oneShotPrefix : Option String) :
    supersededPairs infos oneShotPrefix
      = (sortBy MigrationInfo.compareNewest (infos.filter fun i => IsOutrun infos oneShotPrefix i)
          ).filterMap MigrationInfo.matchedPair? := by
  rw [supersededPairs, newestFirst_eq_filterMap, ← filter_sortBy, List.filter_filterMap,
    List.filterMap_filter]
  refine List.filterMap_congr fun i _ => ?_
  cases hi : i.matchedPair? with
  | none => simp
  | some p => simp [Option.filter, isOutrun_iff hi]

/-! ### What a selection has to hold -/

/-- The selection holds what it has to, script by script. -/
structure IsSelectionOf (infos : List MigrationInfo) (oneShotPrefix : Option String)
    (s : DriftSelection) : Prop where
  /-- The matched infos are counted. -/
  matched : s.matched = infos.countP MigrationInfo.isMatched
  /-- So are their scripts. -/
  candidates :
    s.candidates = ((infos.filter MigrationInfo.isMatched).map MigrationInfo.script).toFinset.card
  /-- The drifted rows are those of the infos that lead their scripts and have drifted, in the
  strict order of a listing, backwards. -/
  drifted : ∃ leaders : List MigrationInfo,
    leaders.map MigrationInfo.applied = s.drifted.map some ∧
    leaders.Pairwise (fun i j => MigrationInfo.compareRank i j = .gt) ∧
    ∀ i, i ∈ leaders ↔ LeadsScript infos i ∧ i.hasDrifted oneShotPrefix = true
  /-- The superseded rows are those of all infos that are outrun, newest first, and those of one
  rank and one script in the order of the infos. -/
  superseded : ∃ older : List MigrationInfo,
    older.map MigrationInfo.applied = s.superseded.map some ∧
    IsStableSort MigrationInfo.compareNewest
      (infos.filter fun i => IsOutrun infos oneShotPrefix i) older

theorem mem_map_script_newestPerScript {script : String} :
    script ∈ (newestPerScript infos).map MatchedPair.script ↔
      script ∈ (infos.filter MigrationInfo.isMatched).map MigrationInfo.script := by
  simp only [List.mem_map, List.mem_filter]
  constructor
  · rintro ⟨p, hp, rfl⟩
    obtain ⟨i, hleads, hi⟩ := mem_newestPerScript_iff.1 hp
    exact ⟨i, ⟨hleads.mem, hleads.isMatched⟩, MigrationInfo.script_of_matchedPair? hi⟩
  · rintro ⟨i, ⟨hi, hmatched⟩, rfl⟩
    obtain ⟨p, hp⟩ := MigrationInfo.exists_matchedPair?_of_isMatched hmatched
    obtain ⟨q, hq, hs⟩ := exists_mem_firstPerScript (mem_newestFirst.2 ⟨i, hi, hp⟩)
    exact ⟨q, hq, hs.trans (MigrationInfo.script_of_matchedPair? hp).symm⟩

theorem isSelectionOf_selectDrifted (infos : List MigrationInfo) (oneShotPrefix : Option String) :
    IsSelectionOf infos oneShotPrefix (selectDrifted infos oneShotPrefix) where
  matched := by
    rw [selectDrifted, newestFirst, length_sortBy, List.length_filterMap_eq_countP]
    simp only [MigrationInfo.isSome_matchedPair?]
  candidates := by
    have hnodup : ((newestPerScript infos).map MatchedPair.script).Nodup :=
      List.pairwise_map.2 (pairwise_firstPerScript _)
    calc (newestPerScript infos).length
      _ = ((newestPerScript infos).map MatchedPair.script).toFinset.card := by
        rw [List.toFinset_card_of_nodup hnodup, List.length_map]
      _ = _ := congrArg Finset.card (Finset.ext fun script => ?_)
    rw [List.mem_toFinset, List.mem_toFinset, mem_map_script_newestPerScript]
  drifted := by
    obtain ⟨leaders, hpairs, hsorted, hmem⟩ := exists_leaders infos oneShotPrefix
    refine ⟨leaders, ?_, hsorted.imp fun h => ?_, hmem⟩
    · rw [map_applied_filterMap_matchedPair? fun i hi => ((hmem i).1 hi).1.isMatched, hpairs]
      rfl
    · rwa [Std.OrientedCmp.gt_iff_lt]
  superseded := by
    refine ⟨_, ?_, isStableSort_sortBy _⟩
    rw [map_applied_filterMap_matchedPair? fun i hi => ?_, ← supersededPairs_eq]
    · rfl
    · simp only [mem_sortBy, List.mem_filter, decide_eq_true_eq] at hi
      exact hi.2.1

/-- One selection holds what it has to. -/
theorem IsSelectionOf.eq {s t : DriftSelection} (hs : IsSelectionOf infos oneShotPrefix s)
    (ht : IsSelectionOf infos oneShotPrefix t) : s = t := by
  have hrows : ∀ {rows rows' : List AppliedMigration} {is : List MigrationInfo},
      is.map MigrationInfo.applied = rows.map some → is.map MigrationInfo.applied = rows'.map some →
        rows = rows' := fun h h' =>
    List.map_injective_iff.2 (Option.some_injective _) (h.symm.trans h')
  obtain ⟨leaders, hdrifted, hsorted, hmem⟩ := hs.drifted
  obtain ⟨leaders', hdrifted', hsorted', hmem'⟩ := ht.drifted
  obtain ⟨older, hsuperseded, hstable⟩ := hs.superseded
  obtain ⟨older', hsuperseded', hstable'⟩ := ht.superseded
  -- a strict order and the elements determine the leaders, a stable sort is one anyway
  obtain rfl : leaders = leaders' := by
    refine eq_of_pairwise_of_mem_iff (fun i j hij hji => ?_) hsorted hsorted' fun i =>
      (hmem i).trans (hmem' i).symm
    rw [Std.OrientedCmp.gt_iff_lt] at hij
    simp [hij] at hji
  obtain rfl : older = older' := hstable.eq_sortBy.trans hstable'.eq_sortBy.symm
  cases s
  cases t
  congr
  · exact hs.matched.trans ht.matched.symm
  · exact hs.candidates.trans ht.candidates.symm
  · exact hrows hdrifted hdrifted'
  · exact hrows hsuperseded hsuperseded'

/-- **The selection of any list of infos is the one that it has to be.**  It counts the matched
infos and their scripts.  Of every script that they have it takes the row of the greatest rank, that
of the first info on a tie, where the row has drifted: the checksums differ, one that is absent from
one that is there as well, the row is no tombstone, and the script does not start with the prefix of
one-shot scripts.  It takes with it every matched row of such a script that is no tombstone and has
a lesser rank.  Either list is in the order of a listing, backwards. -/
theorem selection_is_exact (infos : List MigrationInfo) (oneShotPrefix : Option String)
    (s : DriftSelection) :
    selectDrifted infos oneShotPrefix = s ↔ IsSelectionOf infos oneShotPrefix s := by
  constructor
  · rintro rfl
    exact isSelectionOf_selectDrifted infos oneShotPrefix
  · exact (isSelectionOf_selectDrifted infos oneShotPrefix).eq

end MigrationLedger
