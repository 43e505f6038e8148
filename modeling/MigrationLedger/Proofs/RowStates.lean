import MigrationLedger.Proofs.Completeness

/-!
# The state of a row

The state in which a snapshot lists a row is made from maps of all rows and of all migrations,
and yet it is a matter of the row alone.  Of the other rows only the newest one of its own key
is looked at, and of the migrations only whether one has its key, and which version is the
greatest.  The request is not looked at.  So whatever happens to rows of other keys, and
whatever a snapshot is made for, a row keeps its state.

Nothing of this needs distinct ranks.  Where rows of one key share their greatest rank, the last
of them is the newest.

## Main definitions

* `IsLatestRow` — the last of the rows of the greatest rank of a key.
* `IsGreatestDiscovered` — no discovered version is greater; there may be several.
* `rowState` — the state of a row, from the four things that decide it.

## Main results

* `newestRow?_sortByRank_eq_some_iff` — the newest row of a key, as the ledger hands it out.
* `appliedState_eq_rowState` — **what decides the state of a row.**
* `row_state_is_local` — **rows of other keys and the request do not change the state of a row.**
-/

namespace MigrationLedger

/-- No row of the key has a greater rank, and of those of its rank the row is the last. -/
structure IsLatestRow (rows : List AppliedMigration) (k : Key) (r : AppliedMigration) : Prop
    extends IsNewestRow rows k r where
  /-- Of the rows of its key and its rank it is the last. -/
  last : (rows.filter fun q => q.key.same k && q.installedRank == r.installedRank).getLast? = some r

/-- No discovered version is greater; without one, no migration has a version. -/
def IsGreatestDiscovered (ms : List ResolvedMigration) : Option Version → Prop
  | none => ∀ m ∈ ms, m.version = none
  | some g => (∃ m ∈ ms, m.version = some g) ∧
      ∀ m ∈ ms, ∀ v, m.version = some v → (compare v g).isLE = true

/-- The state of a row `r`: removed by itself or by the newest row of its key, else failed, else
without a migration, else fine.  A row without a migration is newer than everything discovered, or
missing; a synthetic row never has one. -/
def rowState (r newest : AppliedMigration) (discovered : Bool) (greatest : Option Version) :
    MigrationState :=
  if r.isTombstone || (newest.isTombstone && decide (r.installedRank < newest.installedRank)) then
    .deleted
  else if !r.success then .failed
  else if !discovered && !r.kind.isSynthetic then
    if r.version.any fun v => greatest.all fun g => compare v g == .gt then .future else .missing
  else .success

section

variable {ms : List ResolvedMigration} {rows other : List AppliedMigration}
  {r newest : AppliedMigration} {greatest greatest' : Option Version}

/-! ### The newest row of a key -/

/-- Only the rows of a key decide which is its newest. -/
theorem newestRow?_sortByRank (rows : List AppliedMigration) (k : Key) :
    newestRow? (sortByRank rows) k = (sortByRank (rows.filter fun q => q.key.same k)).getLast? := by
  rw [newestRow?, sortByRank, sortByRank, filter_sortBy]

theorem newestRow?_sortByRank_eq_some_iff {k : Key} :
    newestRow? (sortByRank rows) k = some r ↔ IsLatestRow rows k r := by
  have hties : ∀ q : AppliedMigration,
      (AppliedMigration.compareRank r q == .eq && q.key.same k)
        = (q.key.same k && q.installedRank == r.installedRank) := by
    intro q
    have hrank : AppliedMigration.compareRank r q = .eq ↔ q.installedRank = r.installedRank :=
      Std.compare_eq_iff_eq.trans eq_comm
    rw [Bool.and_comm, Bool.eq_iff_iff, Bool.and_eq_true, Bool.and_eq_true, beq_iff_eq, beq_iff_eq,
      hrank]
  rw [newestRow?_sortByRank, sortByRank, getLast?_sortBy_eq_some_iff, tiesOf, List.filter_filter]
  simp only [hties, List.mem_filter, AppliedMigration.isLE_compareRank_iff]
  constructor
  · rintro ⟨hgreatest, hlast⟩
    obtain ⟨hmem, htie⟩ := List.mem_filter.1 (List.mem_of_getLast? hlast)
    exact ⟨⟨hmem, (Bool.and_eq_true_iff.1 htie).1, fun q hq hk => hgreatest q ⟨hq, hk⟩⟩, hlast⟩
  · intro h
    exact ⟨fun q hq => h.newest q hq.1 hq.2, h.last⟩

/-- The key of a row has a newest row. -/
theorem exists_isLatestRow (hr : r ∈ rows) : ∃ newest, IsLatestRow rows r.key newest := by
  have hmem : r ∈ sortByRank rows := mem_sortBy.2 hr
  obtain ⟨newest, hnewest⟩ := exists_newestRow?_eq_some hmem
  exact ⟨newest, newestRow?_sortByRank_eq_some_iff.1 hnewest⟩

/-- Rows of other keys do not change which row is the newest. -/
theorem IsLatestRow.congr {k : Key}
    (h : other.filter (fun q => q.key.same k) = rows.filter fun q => q.key.same k)
    (hlatest : IsLatestRow rows k r) : IsLatestRow other k r := by
  rw [← newestRow?_sortByRank_eq_some_iff, newestRow?_sortByRank] at hlatest ⊢
  rwa [h]

/-! ### The greatest discovered version -/

theorem isGreatestDiscovered_newestDiscovered? (ms : List ResolvedMigration) :
    IsGreatestDiscovered ms (newestDiscovered? ms) := by
  cases hg : newestDiscovered? ms with
  | none =>
    have hnone : ms.filterMap ResolvedMigration.version = [] := greatestBy?_eq_none_iff.1 hg
    exact List.filterMap_eq_nil_iff.1 hnone
  | some g =>
    refine ⟨List.mem_filterMap.1 (mem_of_greatestBy? hg), fun m hm v hv => ?_⟩
    exact isLE_of_greatestBy? hg v (List.mem_filterMap.2 ⟨m, hm, hv⟩)

/-- It does not matter which of several greatest versions a version is compared with. -/
theorem IsGreatestDiscovered.all_gt_eq (h : IsGreatestDiscovered ms greatest)
    (h' : IsGreatestDiscovered ms greatest') (v : Version) :
    (greatest.all fun g => compare v g == .gt) = greatest'.all fun g => compare v g == .gt := by
  cases greatest with
  | none =>
    cases greatest' with
    | none => rfl
    | some g' =>
      obtain ⟨⟨m, hm, hg'⟩, -⟩ := h'
      exact absurd (h m hm) (by simp [hg'])
  | some g =>
    obtain ⟨⟨m, hm, hg⟩, hle⟩ := h
    cases greatest' with
    | none => exact absurd (h' m hm) (by simp [hg])
    | some g' =>
      obtain ⟨⟨n, hn, hg'⟩, hle'⟩ := h'
      have htie : compare g g' = .eq :=
        Std.OrientedCmp.isLE_antisymm (hle' m hm g hg) (hle n hn g' hg')
      simp [Std.TransCmp.congr_right htie]

theorem undiscoveredState_eq_ite (greatest : Option Version) (r : AppliedMigration) :
    undiscoveredState greatest r
      = if r.version.any fun v => greatest.all fun g => compare v g == .gt then .future
        else .missing := by
  unfold undiscoveredState
  cases r.version <;> cases greatest <;> simp

/-! ### What decides the state of a row -/

/-- **What decides the state of a row**: the row, the newest one of its key, whether a migration has
its key, and the greatest discovered version. -/
theorem appliedState_eq_rowState (hnewest : IsLatestRow rows r.key newest)
    (hgreatest : IsGreatestDiscovered ms greatest) :
    appliedState ms (sortByRank rows) r
      = rowState r newest (ms.any fun m => m.key.same r.key) greatest := by
  have hsuperseded : isSuperseded (sortByRank rows) r
      = (newest.isTombstone && decide (r.installedRank < newest.installedRank)) := by
    rw [isSuperseded, newestRow?_sortByRank_eq_some_iff.2 hnewest, Option.any_some]
    congr 1
    rw [Bool.eq_iff_iff]
    simp [Std.compare_eq_lt]
  have hdiscovered : (migrationOf? ms r.key).isNone = !ms.any fun m => m.key.same r.key := by
    rw [migrationOf?, ← Option.not_isSome, List.isSome_find?]
  have hversion : (r.version.any fun v => (newestDiscovered? ms).all fun g => compare v g == .gt)
      = r.version.any fun v => greatest.all fun g => compare v g == .gt := by
    simp only [(isGreatestDiscovered_newestDiscovered? ms).all_gt_eq hgreatest]
  rw [appliedState, rowState, hsuperseded, hdiscovered, undiscoveredState_eq_ite, hversion]

/-- A snapshot lists every row, and all infos of a row are the same. -/
theorem eq_appliedInfo_of_applied {request : Request} {i : MigrationInfo}
    (hi : i ∈ infosOf ms rows request) (hr : i.applied = some r) : i = appliedInfo ms rows r := by
  rcases mem_infosOf.1 hi with ⟨q, -, rfl⟩ | ⟨m, -, -, rfl⟩
  · obtain rfl : q = r := Option.some.inj hr
    rfl
  · exact nomatch hr

end

namespace Plain

/-- The version `1` in another spelling. -/
def oneZero : Version := ⟨"1.0", [.number 1, .number 0], by decide⟩

end Plain

/-- **Rows of other keys and the request do not change the state of a row.**  A row that a ledger
hands out, whatever the ranks of its rows are, has a newest row of its key, and the migrations have
a greatest version or none.  These two, the row, and whether a migration has its key, decide in
which state it is listed.  So it is listed in one and the same state by every snapshot, for
whichever request, over whichever rows among which those of its key are the same. -/
theorem row_state_is_local {ms : List ResolvedMigration} (hkeys : DistinctKeys ms)
    {rows : List AppliedMigration} {r : AppliedMigration} (hr : r ∈ rows) :
    (∃ newest, IsLatestRow rows r.key newest) ∧ (∃ greatest, IsGreatestDiscovered ms greatest) ∧
    ∀ newest greatest, IsLatestRow rows r.key newest → IsGreatestDiscovered ms greatest →
    ∀ other : List AppliedMigration,
      other.filter (fun q => q.key.same r.key) = rows.filter (fun q => q.key.same r.key) →
    ∀ (service : InfoService) (request : Request), ∃ infos,
      service.refresh (.ok ms) (.ok other) request = (.ok (), ⟨request, infos⟩) ∧
      (∃ i ∈ infos, i.applied = some r) ∧
      ∀ i ∈ infos, i.applied = some r →
        i.state = rowState r newest (ms.any fun m => m.key.same r.key) greatest := by
  refine ⟨exists_isLatestRow hr, ⟨_, isGreatestDiscovered_newestDiscovered? ms⟩,
    fun newest greatest hnewest hgreatest other hother service request => ?_⟩
  have hrOther : r ∈ other := by
    have hmem : r ∈ rows.filter fun q => q.key.same r.key :=
      List.mem_filter.2 ⟨hr, Key.same_self _⟩
    rw [← hother] at hmem
    exact (List.mem_filter.1 hmem).1
  refine ⟨infosOf ms (sortByRank other) request,
    refresh_of_distinctKeys hkeys service other request,
    ⟨_, mem_infosOf.2 (.inl ⟨r, mem_sortBy.2 hrOther, rfl⟩), rfl⟩, fun i hi happlied => ?_⟩
  rw [eq_appliedInfo_of_applied hi happlied]
  exact appliedState_eq_rowState (hnewest.congr hother) hgreatest

/-- The row of the table is listed as deleted, with and without the row of the view: the newest row
of its key is a tombstone, in another spelling of the version. -/
theorem row_state_is_local_respelled :
    let table := Plain.row 1 (some Plain.one) "V1__table.sql" 10
    let tombstone := Plain.tombstone 3 (some Plain.oneZero) "V1__table.sql"
    let view := Plain.row 2 none "R__view.sql" 30
    IsLatestRow [table, tombstone] table.key tombstone ∧
      ∀ rows ∈ [[table, tombstone], [table, view, tombstone]],
        ∃ infos, InfoService.refresh {} (.ok Plain.viewAndTable) (.ok rows) {}
            = (.ok (), ⟨{}, infos⟩) ∧
          ∃ i ∈ infos, i.applied = some table ∧ i.state = .deleted := by
  intro table tombstone view
  have hnewest : IsLatestRow [table, tombstone] table.key tombstone :=
    ⟨⟨by decide, by decide, by decide⟩, by decide⟩
  obtain ⟨-, ⟨greatest, hgreatest⟩, hstate⟩ :=
    row_state_is_local (show DistinctKeys Plain.viewAndTable by decide)
      (show table ∈ [table, tombstone] by decide)
  refine ⟨hnewest, fun rows hrows => ?_⟩
  have hother : rows.filter (fun q => q.key.same table.key) = [table, tombstone] := by
    revert rows
    decide
  obtain ⟨infos, hrefresh, ⟨i, hi, happlied⟩, hlisted⟩ :=
    hstate tombstone greatest hnewest hgreatest rows (hother.trans (by decide)) {} {}
  exact ⟨infos, hrefresh, i, hi, happlied, (hlisted i hi happlied).trans rfl⟩

end MigrationLedger
