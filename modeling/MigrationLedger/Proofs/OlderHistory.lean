import MigrationLedger.Proofs.Pass

/-!
# The older history of a purged script

A pass purges the newest row of a changed script and, with it, the older rows of the script.
It looks for these among the pairs of a snapshot, that is, among the rows whose key a migration
has.  A key is more than a script: a row that was recorded under a version no migration of the
script has any more is in no pair, and stays.

## Main definitions

* `IsOlder d r` — `r` is of the script of `d`, and older than it.

## Main results

* `isSelected_iff_of_isOlder` — which older rows of a drifted script a pass selects.
* `purged_script_keeps_undiscovered` — **what is left of the older history of a purged script.**
* `undiscovered_row_outlives_purge` — an older row that is no tombstone and stays.
-/

namespace MigrationLedger

open LawfulLedger (view)

/-- The row `r` is of the script of `d`, and older than it. -/
def IsOlder (d r : AppliedMigration) : Prop :=
  r.script = d.script ∧ r.installedRank < d.installedRank

instance (d r : AppliedMigration) : Decidable (IsOlder d r) :=
  inferInstanceAs (Decidable (_ ∧ _))

section

variable {ms : List ResolvedMigration} {oneShotPrefix : Option String}
  {rows : List AppliedMigration} {d r : AppliedMigration}

/-- Of the rows older than a drifted one, those are selected that a migration is discovered for,
tombstones aside. -/
theorem isSelected_iff_of_isOlder (h : StrictlyAscending rows)
    (hd : IsDrifted ms oneShotPrefix rows d) (hr : r ∈ rows) (hold : IsOlder d r) :
    IsSelected ms oneShotPrefix rows r ↔ isDiscovered ms r = true ∧ r.isTombstone = false := by
  rw [isSelected_iff h]
  constructor
  · rintro ⟨-, hdisc, hplain, -⟩
    exact ⟨hdisc, hplain⟩
  · rintro ⟨hdisc, hplain⟩
    exact ⟨hr, hdisc, hplain, d, hd, hold.1.symm⟩

/-- What is left of the history older than a drifted row. -/
theorem filter_isOlder_not_isSelected (h : StrictlyAscending rows)
    (hd : IsDrifted ms oneShotPrefix rows d) :
    (rows.filter fun r => ¬ IsSelected ms oneShotPrefix rows r).filter (fun r => IsOlder d r)
      = rows.filter fun r =>
        IsOlder d r ∧ (r.isTombstone = true ∨ isDiscovered ms r = false) := by
  rw [List.filter_filter]
  refine List.filter_congr fun r hr => ?_
  by_cases hold : IsOlder d r
  · have hselected := isSelected_iff_of_isOlder h hd hr hold
    cases htomb : r.isTombstone <;> cases hdisc : isDiscovered ms r <;>
      simp [hold, hselected, htomb, hdisc]
  · simp [hold]

end

namespace Plain

/-- The script of the index was numbered `1`, and is numbered `2` now. -/
def renumbered : List ResolvedMigration := [migration (some two) "index.sql" 20]

/-- The index ran under both versions.  Under the second one it was removed and ran again, and
the script has changed since. -/
def indexHistory : Ledger where
  rows := [row 1 (some one) "index.sql" 18, row 2 (some two) "index.sql" 18,
    tombstone 3 (some two) "index.sql", row 4 (some two) "index.sql" 19]
  ascending := by decide

end Plain

/-- **What is left of the older history of a purged script**: after a pass that succeeds, the
tombstones, and the rows for which no migration is discovered under the version they were
recorded with.  So nothing but tombstones is left exactly when a migration was discovered for
every other row of that history. -/
theorem purged_script_keeps_undiscovered {σ : Type} [LedgerAccess σ] [LawfulLedger σ]
    {ms : List ResolvedMigration} {store : σ} {settings : MigrationSettings}
    (hkeys : DistinctKeys ms) (hranks : DistinctRanks (view store).rows) {report : Report}
    (hok : (reconcile (.ok ms) store settings).outcome = .ok report) {d : AppliedMigration}
    (hd : d ∈ report.purged) :
    let after := (reconcile (.ok ms) store settings).store
    (view after).rows.filter (fun r => IsOlder d r)
        = (view store).rows.filter (fun r =>
          IsOlder d r ∧ (r.isTombstone = true ∨ isDiscovered ms r = false)) ∧
      ((∀ r ∈ (view after).rows, IsOlder d r → r.isTombstone = true) ↔
        ∀ r ∈ (view store).rows, IsOlder d r → r.isTombstone = false →
          isDiscovered ms r = true) := by
  intro after
  have hon := republishOnChange_of_mem_purged hok hd
  have hdrifted := (mem_purged_iff hkeys hranks hon hok).1 hd
  have hleft : (view after).rows.filter (fun r => IsOlder d r)
      = (view store).rows.filter fun r =>
        IsOlder d r ∧ (r.isTombstone = true ∨ isDiscovered ms r = false) := by
    rw [rows_reconcile_of_ok hkeys hranks hon hok]
    exact filter_isOlder_not_isSelected (Ledger.strictlyAscending hranks) hdrifted
  have hmem : ∀ r, r ∈ (view after).rows ∧ IsOlder d r ↔ r ∈ (view store).rows ∧
      IsOlder d r ∧ (r.isTombstone = true ∨ isDiscovered ms r = false) := by
    intro r
    simpa using congrArg (r ∈ ·) hleft
  refine ⟨hleft, fun honly r hr hold hplain => ?_, fun hall r hr hold => ?_⟩
  · by_contra hundiscovered
    have hkept := (hmem r).2 ⟨hr, hold, .inr (Bool.eq_false_iff.2 hundiscovered)⟩
    exact Bool.false_ne_true (hplain.symm.trans (honly r hkept.1 hold))
  · obtain ⟨hr, -, htomb | hundiscovered⟩ := (hmem r).1 ⟨hr, hold⟩
    · exact htomb
    · by_contra hplain
      have hdiscovered := hall r hr hold (Bool.eq_false_iff.2 hplain)
      exact Bool.false_ne_true (hundiscovered.symm.trans hdiscovered)

/-- A pass over the history of the index leaves two older rows. -/
theorem purged_script_keeps_undiscovered_index :
    (reconcile (.ok Plain.renumbered) Plain.indexHistory {}).store.rows.filter
        (fun r => IsOlder (Plain.row 4 (some Plain.two) "index.sql" 19) r)
      = [Plain.row 1 (some Plain.one) "index.sql" 18,
        Plain.tombstone 3 (some Plain.two) "index.sql"] := by
  have hkeys : DistinctKeys Plain.renumbered := by decide
  have hranks : DistinctRanks (view Plain.indexHistory).rows := by decide
  obtain ⟨report, hok⟩ := exists_outcome_reconcile_ledger {} hkeys hranks
  have hpurged : Plain.row 4 (some Plain.two) "index.sql" 19 ∈ report.purged :=
    (mem_purged_iff hkeys hranks rfl hok).2 (by decide)
  exact (purged_script_keeps_undiscovered hkeys hranks hok hpurged).1.trans (by decide)

/-- **An older row that outlives the purge of its script.**  The index ran under version `1`; its
script, now of version `2`, has changed.  The pass purges the newest row of the script, and the
row of version `1`, which is no tombstone, stays. -/
theorem undiscovered_row_outlives_purge :
    let newest := Plain.row 4 (some Plain.two) "index.sql" 19
    let older := Plain.row 1 (some Plain.one) "index.sql" 18
    DistinctKeys Plain.renumbered ∧ DistinctRanks Plain.indexHistory.rows ∧
      ∃ report, (reconcile (.ok Plain.renumbered) Plain.indexHistory {}).outcome = .ok report ∧
        newest ∈ report.purged ∧
        older ∈ (reconcile (.ok Plain.renumbered) Plain.indexHistory {}).store.rows ∧
        older.script = newest.script ∧ older.installedRank < newest.installedRank ∧
        older.isTombstone = false := by
  intro newest older
  have hkeys : DistinctKeys Plain.renumbered := by decide
  have hranks : DistinctRanks (view Plain.indexHistory).rows := by decide
  obtain ⟨report, hok⟩ := exists_outcome_reconcile_ledger {} hkeys hranks
  have hpurged : newest ∈ report.purged := (mem_purged_iff hkeys hranks rfl hok).2 (by decide)
  have hleft : (reconcile (.ok Plain.renumbered) Plain.indexHistory {}).store.rows
      = [older, Plain.tombstone 3 (some Plain.two) "index.sql"] :=
    (rows_reconcile_of_ok hkeys hranks rfl hok).trans (by decide)
  refine ⟨hkeys, hranks, report, hok, hpurged, ?_, rfl, by decide, by decide⟩
  rw [hleft]
  exact List.mem_cons_self

end MigrationLedger
