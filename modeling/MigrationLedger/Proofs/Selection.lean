import MigrationLedger.Drift
import MigrationLedger.Proofs.Listing

/-!
# What a pass selects

The selection of a pass, described by rows alone.  A row counts for its script when a
discovered migration has its key, whichever version it was recorded under.  The newest
row that counts decides: if it is outdated it has drifted, and every older row that
counts for the script is superseded, tombstones aside.

## Main definitions

* `isDiscovered`, `isOutdated` — a migration has the key of the row; it has another checksum.
* `IsNewestOfScript`, `IsDrifted`, `IsSuperseded` — the row decides for its script; it has
  drifted; it is older than a drifted row of its script.
* `IsSelected` — the row has drifted or is superseded.

## Main results

* `drifted_infosOf`, `superseded_infosOf` — **what is selected, and in which order.**
* `isSelected_iff` — every row of a drifted script that counts and is no tombstone is selected.
* `isSelected_of_isSelected_filter` — deleting selected rows makes no other row selected.
-/

namespace MigrationLedger

/-! ### Rows and their scripts -/

/-- A discovered migration has the key of the row. -/
def isDiscovered (ms : List ResolvedMigration) (r : AppliedMigration) : Bool :=
  (migrationOf? ms r.key).isSome

/-- The script starts with the text that marks one-shot scripts. -/
def isOneShotScript (oneShotPrefix : Option String) (script : String) : Bool :=
  oneShotPrefix.any fun s => s.toList.isPrefixOf script.toList

/-- The row records another checksum than its migration has, and is neither a tombstone nor
of a one-shot script. -/
def isOutdated (ms : List ResolvedMigration) (oneShotPrefix : Option String)
    (r : AppliedMigration) : Bool :=
  ((migrationOf? ms r.key).any fun m => r.checksum != m.checksum) && !r.isTombstone
    && !isOneShotScript oneShotPrefix r.script

/-- The row is the newest of its script among the rows with a discovered migration. -/
def IsNewestOfScript (ms : List ResolvedMigration) (rows : List AppliedMigration)
    (r : AppliedMigration) : Prop :=
  r ∈ rows ∧ isDiscovered ms r = true ∧
    ∀ q ∈ rows, isDiscovered ms q = true → q.script = r.script →
      q.installedRank ≤ r.installedRank

/-- The row is the newest of its script and outdated. -/
def IsDrifted (ms : List ResolvedMigration) (oneShotPrefix : Option String)
    (rows : List AppliedMigration) (r : AppliedMigration) : Prop :=
  IsNewestOfScript ms rows r ∧ isOutdated ms oneShotPrefix r = true

/-- The row is no tombstone and older than a drifted row of its script. -/
def IsSuperseded (ms : List ResolvedMigration) (oneShotPrefix : Option String)
    (rows : List AppliedMigration) (r : AppliedMigration) : Prop :=
  r ∈ rows ∧ isDiscovered ms r = true ∧ r.isTombstone = false ∧
    ∃ d ∈ rows, IsDrifted ms oneShotPrefix rows d ∧ d.script = r.script ∧
      r.installedRank < d.installedRank

/-- The row has drifted or is superseded. -/
def IsSelected (ms : List ResolvedMigration) (oneShotPrefix : Option String)
    (rows : List AppliedMigration) (r : AppliedMigration) : Prop :=
  IsDrifted ms oneShotPrefix rows r ∨ IsSuperseded ms oneShotPrefix rows r

section

variable (ms : List ResolvedMigration) (oneShotPrefix : Option String)
  (rows : List AppliedMigration) (r : AppliedMigration)

instance : Decidable (IsNewestOfScript ms rows r) := inferInstanceAs (Decidable (_ ∧ _))

instance : Decidable (IsDrifted ms oneShotPrefix rows r) := inferInstanceAs (Decidable (_ ∧ _))

instance : Decidable (IsSuperseded ms oneShotPrefix rows r) :=
  inferInstanceAs (Decidable (_ ∧ _))

instance : Decidable (IsSelected ms oneShotPrefix rows r) := inferInstanceAs (Decidable (_ ∨ _))

end

variable {ms : List ResolvedMigration} {oneShotPrefix : Option String}
  {rows : List AppliedMigration}

/-- A script with a discovered row has a newest one. -/
theorem exists_isNewestOfScript {r : AppliedMigration} (hr : r ∈ rows)
    (hd : isDiscovered ms r = true) :
    ∃ n, IsNewestOfScript ms rows n ∧ n.script = r.script := by
  have hmem : r ∈ rows.filter fun q => isDiscovered ms q && q.script == r.script := by
    simp [hr, hd]
  cases hn : greatestBy? AppliedMigration.compareRank
      (rows.filter fun q => isDiscovered ms q && q.script == r.script) with
  | none => simp [greatestBy?_eq_none_iff.1 hn] at hmem
  | some n =>
    have hnmem := mem_of_greatestBy? hn
    simp only [List.mem_filter, Bool.and_eq_true, beq_iff_eq] at hnmem
    refine ⟨n, ⟨hnmem.1, hnmem.2.1, fun q hq hqd hqs => ?_⟩, hnmem.2.2⟩
    refine AppliedMigration.isLE_compareRank_iff.1 (isLE_of_greatestBy? hn q ?_)
    simp [hq, hqd, hqs, hnmem.2.2]

theorem IsNewestOfScript.eq (h : StrictlyAscending rows) {a b : AppliedMigration}
    (ha : IsNewestOfScript ms rows a) (hb : IsNewestOfScript ms rows b)
    (hs : a.script = b.script) : a = b :=
  h.eq_of_rank_eq ha.1 hb.1
    (Int32.le_antisymm (hb.2.2 a ha.1 ha.2.1 hs) (ha.2.2 b hb.1 hb.2.1 hs.symm))

theorem IsDrifted.isTombstone_eq_false {r : AppliedMigration}
    (h : IsDrifted ms oneShotPrefix rows r) : r.isTombstone = false := by
  have hout := h.2
  simp only [isOutdated, Bool.and_eq_true, Bool.not_eq_true'] at hout
  exact hout.1.2

/-- Every row of a drifted script that has a discovered migration and is no tombstone is
selected. -/
theorem isSelected_iff (h : StrictlyAscending rows) {r : AppliedMigration} :
    IsSelected ms oneShotPrefix rows r ↔
      r ∈ rows ∧ isDiscovered ms r = true ∧ r.isTombstone = false ∧
        ∃ d, IsDrifted ms oneShotPrefix rows d ∧ d.script = r.script := by
  constructor
  · rintro (hr | ⟨hr, hdisc, htomb, d, -, hd, hs, -⟩)
    · exact ⟨hr.1.1, hr.1.2.1, hr.isTombstone_eq_false, r, hr, rfl⟩
    · exact ⟨hr, hdisc, htomb, d, hd, hs⟩
  · rintro ⟨hr, hdisc, htomb, d, hd, hs⟩
    by_cases heq : r.installedRank = d.installedRank
    · obtain rfl : r = d := h.eq_of_rank_eq hr hd.1.1 heq
      exact .inl hd
    · have hle : r.installedRank ≤ d.installedRank := hd.1.2.2 r hr hdisc hs.symm
      exact .inr ⟨hr, hdisc, htomb, d, hd.1.1, hd, hs, Int32.lt_of_le_of_ne hle heq⟩

/-- A superseded row is not the newest of its script. -/
theorem not_isDrifted_of_isSuperseded {r : AppliedMigration}
    (hr : IsSuperseded ms oneShotPrefix rows r) : ¬ IsDrifted ms oneShotPrefix rows r := by
  obtain ⟨-, -, -, d, hd, hdrift, hs, hlt⟩ := hr
  intro hr
  exact Int32.not_le.2 hlt (hr.1.2.2 d hd hdrift.1.2.1 hs)

theorem IsSelected.mem {r : AppliedMigration} (h : IsSelected ms oneShotPrefix rows r) :
    r ∈ rows := by
  rcases h with h | h
  · exact h.1.1
  · exact h.1

/-- **Deleting selected rows makes no other row selected.** -/
theorem isSelected_of_isSelected_filter (h : StrictlyAscending rows)
    {keep : AppliedMigration → Bool}
    (hkeep : ∀ r ∈ rows, keep r = false → IsSelected ms oneShotPrefix rows r)
    {r : AppliedMigration} (hr : IsSelected ms oneShotPrefix (rows.filter keep) r) :
    IsSelected ms oneShotPrefix rows r := by
  have hleft : StrictlyAscending (rows.filter keep) := h.sublist List.filter_sublist
  obtain ⟨hmem, hdisc, htomb, d, hd, hs⟩ := (isSelected_iff hleft).1 hr
  have hrows : ∀ q, q ∈ rows.filter keep → q ∈ rows := fun q hq => (List.mem_filter.1 hq).1
  obtain ⟨n, hn, hns⟩ := exists_isNewestOfScript (hrows d hd.1.1) hd.1.2.1
  refine (isSelected_iff h).2 ⟨hrows r hmem, hdisc, htomb, ?_⟩
  cases hkn : keep n with
  | true =>
    -- the newest row of the script is still there, so it is the one that has drifted
    have hnleft : n ∈ rows.filter keep := List.mem_filter.2 ⟨hn.1, hkn⟩
    have hrank : n.installedRank = d.installedRank :=
      Int32.le_antisymm (hd.1.2.2 n hnleft hn.2.1 hns)
        (hn.2.2 d (hrows d hd.1.1) hd.1.2.1 hns.symm)
    obtain rfl : n = d := h.eq_of_rank_eq hn.1 (hrows d hd.1.1) hrank
    exact ⟨n, ⟨hn, hd.2⟩, hs⟩
  | false =>
    obtain ⟨-, -, -, d', hd', hs'⟩ := (isSelected_iff h).1 (hkeep n hn.1 hkn)
    exact ⟨d', hd', (hs'.trans hns).trans hs⟩

/-- Once every selected row is deleted, none is selected. -/
theorem not_isSelected_filter_not_isSelected (h : StrictlyAscending rows) (r : AppliedMigration) :
    ¬ IsSelected ms oneShotPrefix
      (rows.filter fun q => ¬ IsSelected ms oneShotPrefix rows q) r := by
  intro hr
  have hsel := isSelected_of_isSelected_filter h (by simp) hr
  have hmem := (List.mem_filter.1 hr.mem).2
  simp [hsel] at hmem

/-! ### The pairs of a snapshot -/

@[simp] theorem matchedPair?_planned (m : ResolvedMigration) (state : MigrationState) :
    (MigrationInfo.planned m state).matchedPair? = none := rfl

/-- The migration of a row's key names the row's script. -/
theorem script_of_migrationOf? {r : AppliedMigration} {m : ResolvedMigration}
    (h : migrationOf? ms r.key = some m) : m.script = r.script := by
  unfold migrationOf? at h
  exact Key.script_eq_of_same (a := m.key) (b := r.key) (by simpa using List.find?_some h)

/-- A row is paired with the migration of its key. -/
theorem matchedPair?_appliedInfo_eq_some_iff {r : AppliedMigration} {p : MatchedPair} :
    (appliedInfo ms rows r).matchedPair? = some p ↔
      p.applied = r ∧ migrationOf? ms r.key = some p.resolved := by
  obtain ⟨m, a, hs⟩ := p
  cases hm : migrationOf? ms r.key with
  | none => simp [MigrationInfo.matchedPair?, appliedInfo, hm]
  | some n =>
    have hn : n.script = r.script := script_of_migrationOf? hm
    simp only [MigrationInfo.matchedPair?, appliedInfo, hm, hn, dite_true, Option.some.injEq,
      MatchedPair.mk.injEq]
    constructor
    · rintro ⟨h₁, h₂⟩
      exact ⟨h₂.symm, h₁⟩
    · rintro ⟨h₁, h₂⟩
      exact ⟨h₂, h₁.symm⟩

theorem map_applied_matchedPair? (r : AppliedMigration) :
    (appliedInfo ms rows r).matchedPair?.map MatchedPair.applied
      = Option.guard (isDiscovered ms) r := by
  cases hm : migrationOf? ms r.key with
  | none => simp [MigrationInfo.matchedPair?, appliedInfo, Option.guard, isDiscovered, hm]
  | some m =>
    have hs : m.script = r.script := script_of_migrationOf? hm
    simp [MigrationInfo.matchedPair?, appliedInfo, Option.guard, isDiscovered, hm, hs]

theorem MatchedPair.rank_le_of_compareNewest {p q : MatchedPair}
    (h : (compareNewest p q).isLE = true) : q.rank ≤ p.rank := by
  rw [compareNewest, compareRank, compareLex, Ordering.isLE_then_iff_and] at h
  exact Std.isLE_compare.1 h.1

/-- The rows of the matched pairs are the rows with a discovered migration, newest first. -/
theorem map_applied_newestFirst (h : StrictlyAscending rows) (request : Request) :
    (newestFirst (infosOf ms rows request)).map MatchedPair.applied
      = (rows.filter (isDiscovered ms)).reverse := by
  have hfilter : ((rows.map (appliedInfo ms rows)
      ++ (unapplied ms rows).map fun m => MigrationInfo.planned m
        (plannedState request (newestApplied? rows) m)).filterMap
          MigrationInfo.matchedPair?).map MatchedPair.applied = rows.filter (isDiscovered ms) := by
    rw [List.filterMap_append, List.filterMap_map, List.filterMap_map, List.map_append,
      List.map_filterMap, List.map_filterMap]
    simp [map_applied_matchedPair?, List.filterMap_eq_filter]
  have hperm : ((newestFirst (infosOf ms rows request)).map MatchedPair.applied).Perm
      (rows.filter (isDiscovered ms)) := by
    rw [← hfilter]
    exact ((sortBy_perm _ _).trans ((infosOf_perm ms rows request).filterMap _)).map _
  have hasc : StrictlyAscending (rows.filter (isDiscovered ms)) := h.sublist List.filter_sublist
  have hdesc : (newestFirst (infosOf ms rows request)).Pairwise fun p q => q.rank ≤ p.rank :=
    (pairwise_newestFirst _).imp MatchedPair.rank_le_of_compareNewest
  refine (hperm.trans (List.reverse_perm _).symm).eq_of_pairwise (fun a b ha hb hab hba => ?_)
    (List.pairwise_map.2 hdesc)
    (List.pairwise_reverse.2 (hasc.imp fun hlt => Int32.le_of_lt hlt))
  have hb' : b ∈ rows.filter (isDiscovered ms) := List.mem_reverse.1 hb
  exact hasc.eq_of_rank_eq (hperm.mem_iff.1 ha) hb' (Int32.le_antisymm hba hab)

theorem pairwise_rank_newestFirst (h : StrictlyAscending rows) (request : Request) :
    (newestFirst (infosOf ms rows request)).Pairwise fun p q => q.rank < p.rank := by
  have hasc : StrictlyAscending (rows.filter (isDiscovered ms)) := h.sublist List.filter_sublist
  have hdesc := List.pairwise_reverse.2 hasc
  rw [← map_applied_newestFirst h request] at hdesc
  exact List.pairwise_map.1 hdesc

theorem mem_newestFirst_infosOf {request : Request} {p : MatchedPair} :
    p ∈ newestFirst (infosOf ms rows request) ↔
      p.applied ∈ rows ∧ migrationOf? ms p.applied.key = some p.resolved := by
  simp only [mem_newestFirst, mem_infosOf]
  constructor
  · rintro ⟨i, ⟨r, hr, rfl⟩ | ⟨m, -, -, rfl⟩, hp⟩
    · obtain ⟨rfl, hm⟩ := matchedPair?_appliedInfo_eq_some_iff.1 hp
      exact ⟨hr, hm⟩
    · simp at hp
  · rintro ⟨hp, hm⟩
    exact ⟨_, .inl ⟨p.applied, hp, rfl⟩, matchedPair?_appliedInfo_eq_some_iff.2 ⟨rfl, hm⟩⟩

/-- Among pairs that come newest first, the first pair of a script is its newest. -/
theorem mem_firstPerScript_iff {ps : List MatchedPair}
    (h : ps.Pairwise fun p q => q.rank < p.rank) {p : MatchedPair} :
    p ∈ firstPerScript ps ↔ p ∈ ps ∧ ∀ q ∈ ps, q.script = p.script → q.rank ≤ p.rank := by
  induction ps with
  | nil => simp [firstPerScript]
  | cons a ps ih =>
    obtain ⟨ha, hps⟩ := List.pairwise_cons.1 h
    rw [firstPerScript, List.mem_cons, List.mem_filter, ih hps, List.mem_cons]
    constructor
    · rintro (rfl | ⟨⟨hp, hnew⟩, hs⟩)
      · refine ⟨.inl rfl, fun q hq _ => ?_⟩
        rcases List.mem_cons.1 hq with rfl | hq
        · exact Int32.le_refl _
        · exact Int32.le_of_lt (ha q hq)
      · refine ⟨.inr hp, fun q hq hqs => ?_⟩
        rcases List.mem_cons.1 hq with rfl | hq
        · simp [hqs] at hs
        · exact hnew q hq hqs
    · rintro ⟨rfl | hp, hnew⟩
      · exact .inl rfl
      · refine .inr ⟨⟨hp, fun q hq => hnew q (List.mem_cons_of_mem _ hq)⟩, ?_⟩
        -- the head has a greater rank, so it is of another script
        have hne : p.script ≠ a.script := fun hs =>
          Int32.not_le.2 (ha p hp) (hnew a List.mem_cons_self hs.symm)
        simpa using hne

theorem isDrifted_eq_isOutdated {p : MatchedPair}
    (h : migrationOf? ms p.applied.key = some p.resolved) :
    p.isDrifted oneShotPrefix = isOutdated ms oneShotPrefix p.applied := by
  simp [MatchedPair.isDrifted, isOutdated, h, MatchedPair.isOneShot, isOneShotScript,
    MatchedPair.script]

theorem mem_driftedPairs_iff (h : StrictlyAscending rows) {request : Request} {p : MatchedPair} :
    p ∈ driftedPairs (infosOf ms rows request) oneShotPrefix ↔
      migrationOf? ms p.applied.key = some p.resolved ∧
        IsDrifted ms oneShotPrefix rows p.applied := by
  rw [driftedPairs, newestPerScript, List.mem_filter,
    mem_firstPerScript_iff (pairwise_rank_newestFirst h request), mem_newestFirst_infosOf]
  constructor
  · rintro ⟨⟨⟨hp, hm⟩, hnew⟩, hdrift⟩
    rw [isDrifted_eq_isOutdated hm] at hdrift
    refine ⟨hm, ⟨hp, by simp [isDiscovered, hm], fun q hq hqd hqs => ?_⟩, hdrift⟩
    obtain ⟨m, hqm⟩ := Option.isSome_iff_exists.1 hqd
    exact hnew ⟨m, q, script_of_migrationOf? hqm⟩ (mem_newestFirst_infosOf.2 ⟨hq, hqm⟩) hqs
  · rintro ⟨hm, ⟨hp, -, hnew⟩, hout⟩
    refine ⟨⟨⟨hp, hm⟩, fun q hq hqs => ?_⟩, by rwa [isDrifted_eq_isOutdated hm]⟩
    obtain ⟨hqr, hqm⟩ := mem_newestFirst_infosOf.1 hq
    exact hnew q.applied hqr (by simp [isDiscovered, hqm]) hqs

/-! ### The selection -/

theorem mem_drifted_infosOf (h : StrictlyAscending rows) {request : Request}
    {r : AppliedMigration} :
    r ∈ (selectDrifted (infosOf ms rows request) oneShotPrefix).drifted ↔
      IsDrifted ms oneShotPrefix rows r := by
  rw [selectDrifted, List.mem_map]
  constructor
  · rintro ⟨p, hp, rfl⟩
    exact ((mem_driftedPairs_iff h).1 hp).2
  · intro hr
    obtain ⟨m, hm⟩ := Option.isSome_iff_exists.1 hr.1.2.1
    exact ⟨⟨m, r, script_of_migrationOf? hm⟩, (mem_driftedPairs_iff h).2 ⟨hm, hr⟩, rfl⟩

theorem mem_superseded_infosOf (h : StrictlyAscending rows) {request : Request}
    {r : AppliedMigration} :
    r ∈ (selectDrifted (infosOf ms rows request) oneShotPrefix).superseded ↔
      IsSuperseded ms oneShotPrefix rows r := by
  rw [mem_superseded]
  constructor
  · rintro ⟨⟨p, hp, rfl⟩, htomb, d, hd, hs, hlt⟩
    obtain ⟨hpr, hm⟩ := mem_newestFirst_infosOf.1 hp
    have hdrift := (mem_drifted_infosOf h).1 hd
    exact ⟨hpr, by simp [isDiscovered, hm], htomb, d, hdrift.1.1, hdrift, hs, hlt⟩
  · rintro ⟨hr, hdisc, htomb, d, -, hd, hs, hlt⟩
    obtain ⟨m, hm⟩ := Option.isSome_iff_exists.1 hdisc
    exact ⟨⟨⟨m, r, script_of_migrationOf? hm⟩, mem_newestFirst_infosOf.2 ⟨hr, hm⟩, rfl⟩, htomb,
      d, (mem_drifted_infosOf h).2 hd, hs, hlt⟩

/-- Rows that come newest first are determined by their elements. -/
theorem eq_reverse_filter {selected : List AppliedMigration} (h : StrictlyAscending rows)
    (hs : selected.Pairwise fun a b => b.installedRank < a.installedRank)
    {p : AppliedMigration → Bool} (hmem : ∀ r, r ∈ selected ↔ r ∈ rows ∧ p r = true) :
    selected = (rows.filter p).reverse := by
  refine eq_of_pairwise_of_mem_iff (fun _ _ hab hba => Int32.lt_asymm hab hba) hs
    (List.pairwise_reverse.2 (h.sublist List.filter_sublist)) fun r => ?_
  rw [hmem, List.mem_reverse, List.mem_filter]

/-- **The drifted rows of a selection**, newest first. -/
theorem drifted_infosOf (h : StrictlyAscending rows) (request : Request) :
    (selectDrifted (infosOf ms rows request) oneShotPrefix).drifted
      = (rows.filter fun r => IsDrifted ms oneShotPrefix rows r).reverse := by
  have hsub : (driftedPairs (infosOf ms rows request) oneShotPrefix).Sublist
      (newestFirst (infosOf ms rows request)) :=
    List.filter_sublist.trans (firstPerScript_sublist _)
  have hdesc : (selectDrifted (infosOf ms rows request) oneShotPrefix).drifted.Pairwise
      fun a b => b.installedRank < a.installedRank :=
    List.pairwise_map.2 ((pairwise_rank_newestFirst h request).sublist hsub)
  refine eq_reverse_filter h hdesc fun r => ?_
  rw [mem_drifted_infosOf h, decide_eq_true_eq]
  exact ⟨fun hr => ⟨hr.1.1, hr⟩, fun hr => hr.2⟩

/-- **The superseded rows of a selection**, newest first. -/
theorem superseded_infosOf (h : StrictlyAscending rows) (request : Request) :
    (selectDrifted (infosOf ms rows request) oneShotPrefix).superseded
      = (rows.filter fun r => IsSuperseded ms oneShotPrefix rows r).reverse := by
  have hsub : (supersededPairs (infosOf ms rows request) oneShotPrefix).Sublist
      (newestFirst (infosOf ms rows request)) := List.filter_sublist
  have hdesc : (selectDrifted (infosOf ms rows request) oneShotPrefix).superseded.Pairwise
      fun a b => b.installedRank < a.installedRank :=
    List.pairwise_map.2 ((pairwise_rank_newestFirst h request).sublist hsub)
  refine eq_reverse_filter h hdesc fun r => ?_
  rw [mem_superseded_infosOf h, decide_eq_true_eq]
  exact ⟨fun hr => ⟨hr.1, hr⟩, fun hr => hr.2⟩

end MigrationLedger
