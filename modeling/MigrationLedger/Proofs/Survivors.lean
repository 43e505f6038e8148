import MigrationLedger.Proofs.OlderHistory
import MigrationLedger.Proofs.Tombstones

/-!
# Rows that a pass keeps

The state of a row depends on the other rows in one point: whether the newest row of its key is a
tombstone.  A pass deletes newest rows, so that older ones come to the top of their keys.  But
with a row it deletes every row of the same key that is no tombstone.  What it keeps of such a
key are tombstones, and those are listed as deleted wherever they stand.  So a row that is kept
is listed after the pass as it was before.

## Main results

* `IsSelected.of_same_key` — rows of one key are selected together, tombstones aside.
* `isRemoved_filter_not_isSelected` — what is kept is removed exactly when it was before.
* `appliedInfo_filter_not_isSelected` — **a row that is kept has the same info as before.**
* `kept_row_is_listed_as_before` — two snapshots, before and after a pass, agree on what is kept.
-/

namespace MigrationLedger

open LawfulLedger (view)

section

variable {ms : List ResolvedMigration} {oneShotPrefix : Option String}
  {rows after : List AppliedMigration} {r : AppliedMigration}

/-- The state of a row depends on the other rows only in whether they remove it. -/
theorem appliedState_congr (h : StrictlyAscending rows) (hafter : StrictlyAscending after)
    (hr : r ∈ rows) (hrAfter : r ∈ after) (hremoved : IsRemoved after r ↔ IsRemoved rows r) :
    appliedState ms after r = appliedState ms rows r := by
  have hdeleted : (r.isTombstone || isSuperseded after r)
      = (r.isTombstone || isSuperseded rows r) := by
    rw [Bool.eq_iff_iff]
    calc (r.isTombstone || isSuperseded after r) = true
      _ ↔ appliedState ms after r = .deleted := appliedState_eq_deleted.symm
      _ ↔ appliedState ms rows r = .deleted := by
        rw [appliedState_eq_deleted_iff hafter hrAfter, appliedState_eq_deleted_iff h hr, hremoved]
      _ ↔ (r.isTombstone || isSuperseded rows r) = true := appliedState_eq_deleted
  unfold appliedState
  rw [hdeleted]

/-- Rows of one key are selected together, tombstones aside. -/
theorem IsSelected.of_same_key (h : StrictlyAscending rows) {q : AppliedMigration}
    (hq : IsSelected ms oneShotPrefix rows q) (hr : r ∈ rows) (hkey : q.key.same r.key = true)
    (hplain : r.isTombstone = false) : IsSelected ms oneShotPrefix rows r := by
  obtain ⟨-, hdiscovered, -, d, hd, hscript⟩ := (isSelected_iff h).1 hq
  have hfound : isDiscovered ms r = true := by
    rwa [isDiscovered, ← migrationOf?_congr hkey]
  exact (isSelected_iff h).2
    ⟨hr, hfound, hplain, d, hd, hscript.trans (Key.script_eq_of_same hkey)⟩

/-- A tombstone is not selected. -/
theorem not_isSelected_of_isTombstone (h : StrictlyAscending rows) (htomb : r.isTombstone = true) :
    ¬ IsSelected ms oneShotPrefix rows r := by
  intro hselected
  obtain ⟨-, -, hplain, -⟩ := (isSelected_iff h).1 hselected
  exact Bool.false_ne_true (hplain.symm.trans htomb)

/-- What is kept is removed exactly when it was before. -/
theorem isRemoved_filter_not_isSelected (h : StrictlyAscending rows) (hr : r ∈ rows)
    (hkept : ¬ IsSelected ms oneShotPrefix rows r) :
    IsRemoved (rows.filter fun q => ¬ IsSelected ms oneShotPrefix rows q) r ↔ IsRemoved rows r := by
  have hleft : StrictlyAscending (rows.filter fun q => ¬ IsSelected ms oneShotPrefix rows q) :=
    h.sublist List.filter_sublist
  have hsub : ∀ q ∈ rows.filter (fun q => ¬ IsSelected ms oneShotPrefix rows q), q ∈ rows :=
    fun q hq => (List.mem_filter.1 hq).1
  constructor
  · rintro (htomb | ⟨newest, hnewest, htomb⟩)
    · exact .inl htomb
    · cases hplain : r.isTombstone with
      | true => exact .inl hplain
      | false =>
        -- the newest row of the key is kept as well, or `r` would have gone with it
        obtain ⟨n, hn⟩ := exists_isNewestRow h hr
        have hstays : ¬ IsSelected ms oneShotPrefix rows n := fun hselected =>
          hkept (hselected.of_same_key h hr hn.same_key hplain)
        have hnLeft := hn.of_subset (List.mem_filter.2 ⟨hn.mem, by simpa using hstays⟩) hsub
        obtain rfl : n = newest := hnLeft.eq hleft hnewest
        exact .inr ⟨n, hn, htomb⟩
  · rintro (htomb | ⟨newest, hnewest, htomb⟩)
    · exact .inl htomb
    · have hstays : ¬ IsSelected ms oneShotPrefix rows newest :=
        not_isSelected_of_isTombstone h htomb
      exact .inr ⟨newest,
        hnewest.of_subset (List.mem_filter.2 ⟨hnewest.mem, by simpa using hstays⟩) hsub, htomb⟩

/-- **A row that is kept has the same info as before**: the same migration beside it, and the same
state. -/
theorem appliedInfo_filter_not_isSelected (h : StrictlyAscending rows) (hr : r ∈ rows)
    (hkept : ¬ IsSelected ms oneShotPrefix rows r) :
    appliedInfo ms (rows.filter fun q => ¬ IsSelected ms oneShotPrefix rows q) r
      = appliedInfo ms rows r := by
  have hr' : r ∈ rows.filter fun q => ¬ IsSelected ms oneShotPrefix rows q :=
    List.mem_filter.2 ⟨hr, by simpa using hkept⟩
  rw [appliedInfo, appliedInfo, appliedState_congr h (h.sublist List.filter_sublist) hr hr'
    (isRemoved_filter_not_isSelected h hr hkept)]

end

section

variable {σ : Type} [LedgerAccess σ] [LawfulLedger σ] {ms : List ResolvedMigration} {store : σ}
  {settings : MigrationSettings}

/-- What a pass that succeeds leaves are rows that were there, with the infos they had. -/
theorem appliedInfo_reconcile_of_ok (hkeys : DistinctKeys ms)
    (hranks : DistinctRanks (view store).rows) {report : Report}
    (hok : (reconcile (.ok ms) store settings).outcome = .ok report) {r : AppliedMigration}
    (hr : r ∈ (view (reconcile (.ok ms) store settings).store).rows) :
    r ∈ (view store).rows ∧
      appliedInfo ms (view (reconcile (.ok ms) store settings).store).rows r
        = appliedInfo ms (view store).rows r := by
  cases hon : settings.republishOnChange with
  | false =>
    rw [reconcile_of_disabled hon] at hr ⊢
    exact ⟨hr, rfl⟩
  | true =>
    rw [rows_reconcile_of_ok hkeys hranks hon hok] at hr ⊢
    obtain ⟨hmem, hkept⟩ := List.mem_filter.1 hr
    exact ⟨hmem, appliedInfo_filter_not_isSelected (Ledger.strictlyAscending hranks) hmem
      (of_decide_eq_true hkept)⟩

end

/-- **A pass does not disturb the rows that it keeps.**  A snapshot before a pass that succeeds and a
snapshot after it, for whichever requests, can both be made.  Each row that the ledger hands out
after the pass is listed once in either snapshot, by one and the same info: in the same state, and
beside the same migration. -/
theorem kept_row_is_listed_as_before {σ : Type} [LedgerAccess σ] [LawfulLedger σ]
    {ms : List ResolvedMigration} {store : σ} {settings : MigrationSettings}
    (hkeys : DistinctKeys ms) (hranks : DistinctRanks (view store).rows) {report : Report}
    (hok : (reconcile (.ok ms) store settings).outcome = .ok report)
    {handed left : List AppliedMigration} (hread : LedgerAccess.rows store = .ok handed)
    (hreadAfter : LedgerAccess.rows (reconcile (.ok ms) store settings).store = .ok left)
    (request laterRequest : Request) :
    ∃ infos later,
      (∀ service : InfoService, service.refresh (.ok ms) (.ok handed) request
        = (.ok (), ⟨request, infos⟩)) ∧
      (∀ service : InfoService, service.refresh (.ok ms) (.ok left) laterRequest
        = (.ok (), ⟨laterRequest, later⟩)) ∧
      ∀ r ∈ left, ∃ i, infos.filter (fun j => j.applied = some r) = [i] ∧
        later.filter (fun j => j.applied = some r) = [i] := by
  have hasc := Ledger.strictlyAscending hranks
  have hascAfter := strictlyAscending_rows_reconcile settings hkeys hranks
  have hperm := LawfulLedger.perm_of_rows hreadAfter
  refine ⟨infosOf ms (view store).rows request, infosOf ms _ laterRequest,
    fun service => refresh_eq_ok hkeys hasc (LawfulLedger.perm_of_rows hread) service request,
    fun service => refresh_eq_ok hkeys hascAfter hperm service laterRequest, fun r hr => ?_⟩
  have hrAfter := hperm.mem_iff.1 hr
  obtain ⟨hmem, hinfo⟩ := appliedInfo_reconcile_of_ok hkeys hranks hok hrAfter
  refine ⟨appliedInfo ms (view store).rows r, filter_applied_infosOf hasc request hmem, ?_⟩
  rw [filter_applied_infosOf hascAfter laterRequest hrAfter, hinfo]

/-- The pass over the history of the index purges the rows on either side of the tombstone.  What is
left is listed as before: the row of the first version as missing, the tombstone as deleted and
beside the second version. -/
theorem kept_row_is_listed_as_before_index :
    let after := (reconcile (.ok Plain.renumbered) Plain.indexHistory {}).store
    let older := Plain.row 1 (some Plain.one) "index.sql" 18
    let tombstone := Plain.tombstone 3 (some Plain.two) "index.sql"
    let index := Plain.migration (some Plain.two) "index.sql" 20
    ∃ infos later,
      InfoService.refresh {} (.ok Plain.renumbered) (LedgerAccess.rows Plain.indexHistory) {}
        = (.ok (), ⟨{}, infos⟩) ∧
      InfoService.refresh {} (.ok Plain.renumbered) (LedgerAccess.rows after) {}
        = (.ok (), ⟨{}, later⟩) ∧
      after.rows = [older, tombstone] ∧
      (∀ listing ∈ [infos, later], listing.filter (fun i => i.applied = some older)
        = [⟨none, some older, .missing⟩]) ∧
      ∀ listing ∈ [infos, later], listing.filter (fun i => i.applied = some tombstone)
        = [⟨some index, some tombstone, .deleted⟩] := by
  intro after older tombstone index
  have hkeys : DistinctKeys Plain.renumbered := by decide
  have hranks : DistinctRanks (view Plain.indexHistory).rows := by decide
  obtain ⟨report, hok⟩ := exists_outcome_reconcile_ledger {} hkeys hranks
  have hleft : after.rows = [older, tombstone] :=
    (rows_reconcile_of_ok hkeys hranks rfl hok).trans (by decide)
  obtain ⟨infos, later, hinfos, hlater, hsame⟩ :=
    kept_row_is_listed_as_before hkeys hranks hok rfl rfl {} {}
  -- the first snapshot is known, and the second one agrees with it
  have hfirst : infos = infosOf Plain.renumbered Plain.indexHistory.rows {} := by
    have hrefresh := (hinfos {}).symm.trans (refresh_eq_ok hkeys (Ledger.strictlyAscending hranks)
      (List.Perm.refl _) {} {})
    exact congrArg (fun result => result.2.infos) hrefresh
  have hlisted : ∀ r ∈ after.rows, ∀ listing ∈ [infos, later],
      listing.filter (fun i => i.applied = some r)
        = [appliedInfo Plain.renumbered Plain.indexHistory.rows r] := by
    intro r hr listing hlisting
    obtain ⟨i, hbefore, hafter⟩ := hsame r hr
    have hmem : r ∈ Plain.indexHistory.rows :=
      (appliedInfo_reconcile_of_ok hkeys hranks hok hr).1
    have hi : [i] = [appliedInfo Plain.renumbered Plain.indexHistory.rows r] := by
      rw [← hbefore, hfirst]
      exact filter_applied_infosOf (Ledger.strictlyAscending hranks) {} hmem
    rcases List.mem_pair.1 hlisting with rfl | rfl
    · rw [hbefore, hi]
    · rw [hafter, hi]
  refine ⟨infos, later, hinfos {}, hlater {}, hleft, fun listing hlisting => ?_,
    fun listing hlisting => ?_⟩
  · rw [hlisted older (by simp [hleft]) listing hlisting]
    decide
  · rw [hlisted tombstone (by simp [hleft]) listing hlisting]
    decide

end MigrationLedger
