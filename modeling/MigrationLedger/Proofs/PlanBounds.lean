import MigrationLedger.Proofs.Tombstones

/-!
# What a plan is measured by

A migration with a version is planned according to the greatest applied version.  Applied are
the successful rows that are no tombstones, of keys whose newest row is none.  The rows
themselves are listed by another rule: a row is deleted when a tombstone of its key has a
greater rank.  The two rules agree.  Where no ranks are shared, the applied rows are the ones
that are listed as installed, whether or not their migrations are still discovered.

So what a snapshot plans can be held against the rows that it lists.  A migration that is
pending is no older than any installed row, and one that is older than some is out of order,
which a request has to admit.

## Main definitions

* `MigrationState.isInstalled` — the states of rows that ran and were not removed.
* `IsInstalledVersion` — the version of a row that is listed in one of these states.

## Main results

* `isApplied_iff` — a row is applied when it is successful and not removed.
* `isInstalled_appliedState_iff` — **the applied rows are those that are listed as installed.**
* `plan_stays_above_installed` — **a plan does not go below what is installed unless it says so.**
-/

namespace MigrationLedger

/-- A row stands behind the state that was successful and is not removed. -/
def MigrationState.isInstalled : MigrationState → Bool
  | .success | .missing | .future => true
  | _ => false

theorem MigrationState.isApplied_of_isInstalled {state : MigrationState}
    (h : state.isInstalled = true) : state.isApplied = true := by
  cases state with
  | success | missing | future => rfl
  | _ => exact nomatch h

/-- An installed row has the version. -/
def IsInstalledVersion (infos : List MigrationInfo) (w : Version) : Prop :=
  ∃ i ∈ infos, i.state.isInstalled = true ∧ i.version = some w

section

variable {ms : List ResolvedMigration} {rows : List AppliedMigration} {r : AppliedMigration}

/-- A row is applied when it is successful and not removed. -/
theorem isApplied_iff (h : StrictlyAscending rows) :
    IsApplied rows r ↔ r ∈ rows ∧ r.success = true ∧ ¬ IsRemoved rows r := by
  constructor
  · intro happlied
    refine ⟨happlied.mem, happlied.success, ?_⟩
    obtain ⟨newest, hnewest, hplain⟩ := happlied.live
    rintro (htomb | ⟨n, hn, htomb⟩)
    · exact Bool.false_ne_true (happlied.not_tombstone.symm.trans htomb)
    · obtain rfl : n = newest := hn.eq h hnewest
      exact Bool.false_ne_true (hplain.symm.trans htomb)
  · rintro ⟨hr, hsuccess, hkept⟩
    obtain ⟨newest, hnewest⟩ := exists_isNewestRow h hr
    exact ⟨hr, hsuccess, Bool.eq_false_iff.2 fun htomb => hkept (.inl htomb), newest, hnewest,
      Bool.eq_false_iff.2 fun htomb => hkept (.inr ⟨newest, hnewest, htomb⟩)⟩

theorem isInstalled_appliedState (ms : List ResolvedMigration) (rows : List AppliedMigration)
    (r : AppliedMigration) : (appliedState ms rows r).isInstalled
      = (!(r.isTombstone || isSuperseded rows r) && r.success) := by
  unfold appliedState undiscoveredState
  cases r.isTombstone || isSuperseded rows r with
  | true => rfl
  | false =>
    cases r.success with
    | false => rfl
    | true =>
      -- future, missing or fine, the row is installed
      simp only [Bool.false_eq_true, if_false, Bool.not_true, Bool.not_false, Bool.true_and]
      repeat' split
      all_goals rfl

/-- **The applied rows are those that are listed as installed.** -/
theorem isInstalled_appliedState_iff (h : StrictlyAscending rows) (hr : r ∈ rows) :
    (appliedState ms rows r).isInstalled = true ↔ IsApplied rows r := by
  have hdeleted : appliedState ms rows r = .deleted ↔ IsRemoved rows r :=
    appliedState_eq_deleted_iff h hr
  rw [isInstalled_appliedState, isApplied_iff h, ← hdeleted, appliedState_eq_deleted,
    Bool.and_eq_true, Bool.not_eq_true', Bool.not_eq_true]
  constructor
  · rintro ⟨hkept, hsuccess⟩
    exact ⟨hr, hsuccess, hkept⟩
  · rintro ⟨-, hsuccess, hkept⟩
    exact ⟨hkept, hsuccess⟩

/-- The versions of a snapshot that are installed are those of the ledger that are applied. -/
theorem isInstalledVersion_infosOf_iff (h : StrictlyAscending rows) {request : Request}
    {w : Version} :
    IsInstalledVersion (infosOf ms rows request) w ↔ IsAppliedVersion rows w := by
  constructor
  · rintro ⟨i, hi, hinstalled, hw⟩
    obtain ⟨r, hr, rfl⟩ := exists_appliedInfo_of_isApplied hi
      (MigrationState.isApplied_of_isInstalled hinstalled)
    exact ⟨r, (isInstalled_appliedState_iff h hr).1 hinstalled, hw⟩
  · rintro ⟨r, happlied, hw⟩
    exact ⟨appliedInfo ms rows r, mem_infosOf.2 (.inl ⟨r, happlied.mem, rfl⟩),
      (isInstalled_appliedState_iff h happlied.mem).2 happlied, hw⟩

/-- The current version is installed. -/
theorem exists_isInstalledVersion_of_current? {s : InfoService} {i : MigrationInfo}
    (hi : s.current? = some i) : ∃ w, i.version = some w ∧ IsInstalledVersion s.infos w := by
  obtain ⟨hmem, hcurrent⟩ := List.mem_filter.1 (mem_of_greatestBy? hi)
  rw [Bool.and_eq_true, beq_iff_eq] at hcurrent
  obtain ⟨hsuccess, hversioned⟩ := hcurrent
  obtain ⟨w, hw⟩ := Option.isSome_iff_exists.1 hversioned
  exact ⟨w, hw, i, hmem, by rw [hsuccess]; rfl, hw⟩

/-! ### What the states of a plan say -/

variable {request : Request} {m : ResolvedMigration}

/-- A migration that is pending is older than nothing that is applied. -/
theorem not_lt_of_plannedState_eq_pending (h : StrictlyAscending rows)
    (hstate : plannedState request (newestApplied? rows) m = .pending) {v w : Version}
    (hv : m.version = some v) (hw : IsAppliedVersion rows w) : compare v w ≠ .lt := by
  intro hvw
  have hnewer := (any_newestApplied?_iff h).2 ⟨w, hw, hvw⟩
  simp only [plannedState, hv, hnewer, if_true] at hstate
  -- the migration is unpicked, above the target, or measured by the order
  split at hstate
  · simp at hstate
  · split at hstate
    · simp at hstate
    · split at hstate <;> simp at hstate

/-- A migration that is out of order is older than something that is applied, and the request
admits that. -/
theorem of_plannedState_eq_outOfOrder (h : StrictlyAscending rows)
    (hstate : plannedState request (newestApplied? rows) m = .outOfOrder) :
    request.outOfOrder = true ∧
      ∃ v, m.version = some v ∧ ∃ w, IsAppliedVersion rows w ∧ compare v w = .lt := by
  unfold plannedState at hstate
  split at hstate
  · exact nomatch hstate
  · split at hstate
    · exact nomatch hstate
    · next v hv =>
      split at hstate
      · exact nomatch hstate
      · split at hstate
        · next hnewer =>
          split at hstate
          · next horder => exact ⟨horder, v, hv, (any_newestApplied?_iff h).1 hnewer⟩
          · exact nomatch hstate
        · exact nomatch hstate

end

/-- **A plan does not go below what is installed unless it says so.**  What is pending is older than
no version that is installed.  What is out of order is older than one that is, and the request
admits that.  So where the order matters, nothing that waits to run is older than what is current,
which has a version. -/
theorem plan_stays_above_installed {ms : List ResolvedMigration} {handed : List AppliedMigration}
    (hkeys : DistinctKeys ms) (hranks : DistinctRanks handed) (service : InfoService)
    (request : Request) :
    ∃ infos, service.refresh (.ok ms) (.ok handed) request = (.ok (), ⟨request, infos⟩) ∧
      (∀ i ∈ infos, i.state = .pending → ∀ v, i.version = some v →
        ∀ w, IsInstalledVersion infos w → compare v w ≠ .lt) ∧
      (∀ i ∈ infos, i.state = .outOfOrder → request.outOfOrder = true ∧
        ∃ v, i.version = some v ∧ ∃ w, IsInstalledVersion infos w ∧ compare v w = .lt) ∧
      (request.outOfOrder = false →
        ∀ current, (InfoService.mk request infos).current? = some current →
          ∃ w, current.version = some w ∧ ∀ i ∈ (InfoService.mk request infos).pending,
            ∀ v, i.version = some v → compare v w ≠ .lt) := by
  have hasc : StrictlyAscending (sortByRank handed) := strictlyAscending_sortByRank hranks
  have hpending : ∀ i ∈ infosOf ms (sortByRank handed) request, i.state = .pending →
      ∀ v, i.version = some v → ∀ w,
        IsInstalledVersion (infosOf ms (sortByRank handed) request) w → compare v w ≠ .lt := by
    intro i hi hstate v hv w hw
    obtain ⟨m, -, -, rfl⟩ := exists_planned_of_isApplied_eq_false hi (by rw [hstate]; rfl)
    exact not_lt_of_plannedState_eq_pending hasc hstate hv
      ((isInstalledVersion_infosOf_iff hasc).1 hw)
  have houtOfOrder : ∀ i ∈ infosOf ms (sortByRank handed) request, i.state = .outOfOrder →
      request.outOfOrder = true ∧ ∃ v, i.version = some v ∧ ∃ w,
        IsInstalledVersion (infosOf ms (sortByRank handed) request) w ∧ compare v w = .lt := by
    intro i hi hstate
    obtain ⟨m, -, -, rfl⟩ := exists_planned_of_isApplied_eq_false hi (by rw [hstate]; rfl)
    obtain ⟨horder, v, hv, w, hw, hvw⟩ := of_plannedState_eq_outOfOrder hasc hstate
    exact ⟨horder, v, hv, w, (isInstalledVersion_infosOf_iff hasc).2 hw, hvw⟩
  refine ⟨_, refresh_of_distinctKeys hkeys service handed request, hpending, houtOfOrder,
    fun horder current hcurrent => ?_⟩
  obtain ⟨w, hw, hinstalled⟩ := exists_isInstalledVersion_of_current? hcurrent
  refine ⟨w, hw, fun i hi v hv => ?_⟩
  obtain ⟨hlisted, hwaits⟩ := InfoService.mem_pending.1 hi
  cases hstate : i.state with
  | pending => exact hpending i hlisted hstate v hv w hinstalled
  | outOfOrder =>
    exact absurd (horder.symm.trans (houtOfOrder i hlisted hstate).1) Bool.false_ne_true
  | _ =>
    rw [hstate] at hwaits
    exact nomatch hwaits

/-- Where only the second version ran, the first one is out of order, and older than what is
installed. -/
theorem plan_stays_above_installed_skipped :
    ∃ infos i, InfoService.refresh {} (.ok Plain.versions) (.ok Plain.skipped.rows)
        Plain.following.request = (.ok (), ⟨Plain.following.request, infos⟩) ∧
      i ∈ infos ∧ i.state = .outOfOrder ∧ i.version = some Plain.one ∧
      ∃ w, IsInstalledVersion infos w ∧ compare Plain.one w = .lt := by
  have hkeys : DistinctKeys Plain.versions := by decide
  have hranks : DistinctRanks Plain.skipped.rows := by decide
  obtain ⟨infos, hrefresh, -, houtOfOrder, -⟩ :=
    plan_stays_above_installed hkeys hranks {} Plain.following.request
  obtain rfl : infosOf Plain.versions (sortByRank Plain.skipped.rows) Plain.following.request
      = infos := by
    simpa using (refresh_of_distinctKeys hkeys {} Plain.skipped.rows _).symm.trans hrefresh
  have hsorted : sortByRank Plain.skipped.rows = Plain.skipped.rows := sortBy_eq_self (by decide)
  have hlisted : MigrationInfo.planned (Plain.migration (some Plain.one) "V1__table.sql" 10)
      .outOfOrder ∈ infosOf Plain.versions (sortByRank Plain.skipped.rows)
        Plain.following.request := by
    rw [hsorted]
    exact mem_infosOf.2 (.inr ⟨_, List.mem_cons_self, by decide, by decide⟩)
  obtain ⟨-, v, hv, w, hw, hvw⟩ := houtOfOrder _ hlisted rfl
  obtain rfl : Plain.one = v := Option.some.inj hv
  exact ⟨_, _, hrefresh, hlisted, rfl, rfl, w, hw, hvw⟩

end MigrationLedger
