import MigrationLedger.Proofs.Deletion

/-!
# What a pass does to the ledger

A pass over migrations with distinct keys and rows with distinct ranks deletes selected
rows and nothing else; when it succeeds it has deleted all of them.  On a ledger in
memory it always succeeds.  Afterwards no script is drifted, so that a second pass has
nothing to delete.

## Main definitions

* `passSelection` — what a pass over rows in ascending order selects.

## Main results

* `rows_reconcile`, `isSelected_of_mem_removed` — what a pass leaves, wherever it stopped.
* `reconcile_of_ok`, `rows_reconcile_of_ok` — what a pass that succeeds reports and leaves.
* `reconcile_removes_reported` — **a pass removes exactly the rows that it reports.**
* `reconcile_idempotent` — **a second pass deletes nothing.**
-/

namespace MigrationLedger

open LawfulLedger (view)

/-! ### The selection of a pass -/

/-- What a pass over rows in ascending order selects. -/
def passSelection (ms : List ResolvedMigration) (rows : List AppliedMigration)
    (settings : MigrationSettings) : DriftSelection :=
  selectDrifted (infosOf ms rows (passRequest settings)) settings.oneShotPrefix

section

variable {ms : List ResolvedMigration} {rows : List AppliedMigration}
  {settings : MigrationSettings}

theorem mem_drifted_passSelection (h : StrictlyAscending rows) {r : AppliedMigration} :
    r ∈ (passSelection ms rows settings).drifted ↔ IsDrifted ms settings.oneShotPrefix rows r :=
  mem_drifted_infosOf h

theorem mem_superseded_passSelection (h : StrictlyAscending rows) {r : AppliedMigration} :
    r ∈ (passSelection ms rows settings).superseded ↔
      IsSuperseded ms settings.oneShotPrefix rows r :=
  mem_superseded_infosOf h

theorem mem_rows_passSelection (h : StrictlyAscending rows) {r : AppliedMigration} :
    r ∈ (passSelection ms rows settings).rows ↔ IsSelected ms settings.oneShotPrefix rows r := by
  rw [DriftSelection.rows, List.mem_append, mem_drifted_passSelection h,
    mem_superseded_passSelection h]
  rfl

/-- What a pass selects, and in which order: the drifted rows, newest first, and then the
superseded ones. -/
theorem rows_passSelection (h : StrictlyAscending rows) :
    (passSelection ms rows settings).rows
      = (rows.filter fun r => IsDrifted ms settings.oneShotPrefix rows r).reverse
        ++ (rows.filter fun r => IsSuperseded ms settings.oneShotPrefix rows r).reverse := by
  rw [DriftSelection.rows, passSelection, drifted_infosOf h, superseded_infosOf h]

/-- No row is selected twice. -/
theorem nodup_rows_passSelection (h : StrictlyAscending rows) :
    (passSelection ms rows settings).rows.Nodup := by
  rw [rows_passSelection h]
  refine List.nodup_append'.2 ⟨?_, ?_, fun r hd hs => ?_⟩
  · exact List.nodup_reverse.2 (h.nodup.filter _)
  · exact List.nodup_reverse.2 (h.nodup.filter _)
  · simp only [List.mem_reverse, List.mem_filter, decide_eq_true_eq] at hd hs
    exact not_isDrifted_of_isSuperseded hs.2 hd.2

theorem distinctRanks_rows_passSelection (h : StrictlyAscending rows) :
    DistinctRanks (passSelection ms rows settings).rows :=
  (nodup_rows_passSelection h).map_on fun _ ha _ hb hab =>
    h.eq_of_rank_eq ((mem_rows_passSelection h).1 ha).mem ((mem_rows_passSelection h).1 hb).mem hab

theorem selectionOf_eq_ok {handed : List AppliedMigration} (hkeys : DistinctKeys ms)
    (h : StrictlyAscending rows) (hp : handed.Perm rows) (settings : MigrationSettings) :
    selectionOf (.ok ms) (.ok handed) settings = .ok (passSelection ms rows settings) := by
  rw [selectionOf, load_eq_ok hkeys h hp]
  rfl

end

/-! ### What a pass leaves -/

section

variable {σ : Type} [LedgerAccess σ] [LawfulLedger σ] {ms : List ResolvedMigration}
  {store : σ} {settings : MigrationSettings}

/-- A pass that is switched on and can read the ledger purges its selection. -/
theorem reconcile_eq_purge {handed : List AppliedMigration} (hkeys : DistinctKeys ms)
    (hranks : DistinctRanks (view store).rows) (hread : LedgerAccess.rows store = .ok handed)
    (hon : settings.republishOnChange = true) :
    reconcile (.ok ms) store settings
      = purge store (passSelection ms (view store).rows settings) settings.outOfOrder := by
  refine reconcile_of_selection hon ?_
  rw [hread]
  exact selectionOf_eq_ok hkeys (Ledger.strictlyAscending hranks)
    (LawfulLedger.perm_of_rows hread) settings

/-- A pass is switched off, cannot read the ledger, or purges its selection. -/
theorem reconcile_cases (settings : MigrationSettings) (hkeys : DistinctKeys ms)
    (hranks : DistinctRanks (view store).rows) :
    settings.republishOnChange = false ∧
        reconcile (.ok ms) store settings = ⟨.ok {}, store, [], [], []⟩ ∨
      (∃ e, reconcile (.ok ms) store settings = ⟨.error e, store, [], [], []⟩) ∨
      settings.republishOnChange = true ∧ reconcile (.ok ms) store settings
        = purge store (passSelection ms (view store).rows settings) settings.outOfOrder := by
  cases hon : settings.republishOnChange with
  | false => exact .inl ⟨rfl, reconcile_of_disabled hon⟩
  | true =>
    cases hread : LedgerAccess.rows store with
    | error e =>
      refine .inr (.inl ⟨e, ?_⟩)
      simp [reconcile, hon, hread, selectionOf, InfoService.load, InfoService.refresh, Except.map]
    | ok handed => exact .inr (.inr ⟨rfl, reconcile_eq_purge hkeys hranks hread hon⟩)

/-- A pass removes selected rows only, in the order of the selection and from its front. -/
theorem exists_rows_passSelection_eq (settings : MigrationSettings) (hkeys : DistinctKeys ms)
    (hranks : DistinctRanks (view store).rows) :
    ∃ rest, (passSelection ms (view store).rows settings).rows
      = (reconcile (.ok ms) store settings).removed ++ rest := by
  rcases reconcile_cases settings hkeys hranks with ⟨-, h⟩ | ⟨e, h⟩ | ⟨-, h⟩
  · exact ⟨_, by rw [h]; rfl⟩
  · exact ⟨_, by rw [h]; rfl⟩
  · obtain ⟨rest, hrest, -⟩ := removed_deleteAll store
      (passSelection ms (view store).rows settings).rows
    exact ⟨rest, by rw [h, purge_eq]; exact hrest⟩

theorem isSelected_of_mem_removed (hkeys : DistinctKeys ms)
    (hranks : DistinctRanks (view store).rows) {r : AppliedMigration}
    (hr : r ∈ (reconcile (.ok ms) store settings).removed) :
    IsSelected ms settings.oneShotPrefix (view store).rows r := by
  obtain ⟨rest, hrest⟩ := exists_rows_passSelection_eq settings hkeys hranks
  rw [← mem_rows_passSelection (Ledger.strictlyAscending hranks), hrest]
  exact List.mem_append_left _ hr

/-- What a pass leaves, wherever it stopped. -/
theorem rows_reconcile (settings : MigrationSettings) (hkeys : DistinctKeys ms)
    (hranks : DistinctRanks (view store).rows) :
    (view (reconcile (.ok ms) store settings).store).rows
      = (view store).rows.filter fun r => r ∉ (reconcile (.ok ms) store settings).removed := by
  -- deletes go by rank; among rows of distinct ranks that is the same as going by row
  rw [← filter_rank_notMem (Ledger.strictlyAscending hranks) fun r hr =>
    (isSelected_of_mem_removed hkeys hranks hr).mem]
  rcases reconcile_cases settings hkeys hranks with ⟨-, h⟩ | ⟨e, h⟩ | ⟨-, h⟩
  · simp [h]
  · simp [h]
  · rw [h, purge_eq]
    exact rows_deleteAll store _

/-- The rows that a pass leaves ascend, wherever it stopped. -/
theorem strictlyAscending_rows_reconcile (settings : MigrationSettings) (hkeys : DistinctKeys ms)
    (hranks : DistinctRanks (view store).rows) :
    StrictlyAscending (view (reconcile (.ok ms) store settings).store).rows := by
  rw [rows_reconcile settings hkeys hranks]
  exact (Ledger.strictlyAscending hranks).sublist List.filter_sublist

/-- A pass that succeeds has removed and reports its whole selection. -/
theorem reconcile_of_ok (hkeys : DistinctKeys ms) (hranks : DistinctRanks (view store).rows)
    (hon : settings.republishOnChange = true) {report : Report}
    (hok : (reconcile (.ok ms) store settings).outcome = .ok report) :
    (reconcile (.ok ms) store settings).removed
        = (passSelection ms (view store).rows settings).rows ∧
      report.purged = (passSelection ms (view store).rows settings).drifted ∧
      report.superseded = (passSelection ms (view store).rows settings).superseded := by
  rcases reconcile_cases settings hkeys hranks with ⟨hoff, -⟩ | ⟨e, h⟩ | ⟨-, h⟩
  · exact absurd (hon.symm.trans hoff) (by decide)
  · rw [h] at hok
    simp at hok
  · rw [h, purge_eq] at hok ⊢
    cases hfault : (deleteAll store (passSelection ms (view store).rows settings).rows).fault with
    | some e => simp [hfault] at hok
    | none =>
      simp only [hfault, Except.ok.injEq] at hok
      exact ⟨removed_deleteAll_of_fault_eq_none hfault, by rw [← hok], by rw [← hok]⟩

/-- The purged rows of a pass that succeeds are those that have drifted. -/
theorem mem_purged_iff (hkeys : DistinctKeys ms) (hranks : DistinctRanks (view store).rows)
    (hon : settings.republishOnChange = true) {report : Report}
    (hok : (reconcile (.ok ms) store settings).outcome = .ok report) {r : AppliedMigration} :
    r ∈ report.purged ↔ IsDrifted ms settings.oneShotPrefix (view store).rows r := by
  rw [(reconcile_of_ok hkeys hranks hon hok).2.1]
  exact mem_drifted_passSelection (Ledger.strictlyAscending hranks)

/-- What a pass that succeeds leaves: every row that is not selected. -/
theorem rows_reconcile_of_ok (hkeys : DistinctKeys ms) (hranks : DistinctRanks (view store).rows)
    (hon : settings.republishOnChange = true) {report : Report}
    (hok : (reconcile (.ok ms) store settings).outcome = .ok report) :
    (view (reconcile (.ok ms) store settings).store).rows
      = (view store).rows.filter fun r =>
        ¬ IsSelected ms settings.oneShotPrefix (view store).rows r := by
  rw [rows_reconcile settings hkeys hranks, (reconcile_of_ok hkeys hranks hon hok).1]
  exact List.filter_congr fun r _ => decide_eq_decide.2 (not_congr
    (mem_rows_passSelection (Ledger.strictlyAscending hranks)))

/-- Among the rows that a pass leaves when it succeeds, none is selected. -/
theorem not_isSelected_reconcile_of_ok (hkeys : DistinctKeys ms)
    (hranks : DistinctRanks (view store).rows) (hon : settings.republishOnChange = true)
    {report : Report} (hok : (reconcile (.ok ms) store settings).outcome = .ok report)
    (r : AppliedMigration) :
    ¬ IsSelected ms settings.oneShotPrefix
      (view (reconcile (.ok ms) store settings).store).rows r := by
  rw [rows_reconcile_of_ok hkeys hranks hon hok]
  exact not_isSelected_filter_not_isSelected (Ledger.strictlyAscending hranks) r

end

/-! ### Ledgers in memory -/

section

variable {ms : List ResolvedMigration} {settings : MigrationSettings}

/-- A pass that can read the ledger and delete its selection succeeds. -/
theorem exists_outcome_reconcile {σ : Type} [LedgerAccess σ] [LawfulLedger σ] {store : σ}
    {handed : List AppliedMigration} (hkeys : DistinctKeys ms)
    (hranks : DistinctRanks (view store).rows) (hread : LedgerAccess.rows store = .ok handed)
    (hfault : (deleteAll store (passSelection ms (view store).rows settings).rows).fault = none) :
    ∃ report, (reconcile (.ok ms) store settings).outcome = .ok report := by
  cases hon : settings.republishOnChange with
  | false => exact ⟨{}, by rw [reconcile_of_disabled hon]⟩
  | true =>
    rw [reconcile_eq_purge hkeys hranks hread hon, purge_eq]
    simp only [hfault]
    exact ⟨_, rfl⟩

/-- Selected rows that are not refused can be deleted one by one. -/
theorem fault_deleteAll_passSelection {σ : Type} [LedgerAccess σ] [RefusingLedger σ] {store : σ}
    (hranks : DistinctRanks (view store).rows)
    (hfree : ∀ r ∈ (passSelection ms (view store).rows settings).rows,
      RefusingLedger.refusal store r = none) :
    (deleteAll store (passSelection ms (view store).rows settings).rows).fault = none := by
  have hasc := Ledger.strictlyAscending hranks
  obtain ⟨next, hrun, -⟩ := deleteAll_of_refusal_eq_none (distinctRanks_rows_passSelection hasc)
    (fun r hr => ((mem_rows_passSelection hasc).1 hr).mem) hfree
  rw [hrun]

/-- On a ledger in memory a pass succeeds. -/
theorem exists_outcome_reconcile_ledger {l : Ledger} (settings : MigrationSettings)
    (hkeys : DistinctKeys ms) (hranks : DistinctRanks l.rows) :
    ∃ report, (reconcile (.ok ms) l settings).outcome = .ok report := by
  have hview : DistinctRanks (view l).rows := hranks
  exact exists_outcome_reconcile hkeys hview rfl (fault_deleteAll_passSelection hview fun _ _ => rfl)

end

/-- The report accounts for what became of some rows. -/
structure Report.Accounts (report : Report) (before after : List AppliedMigration) : Prop where
  /-- The reported rows are gone; the others are left, in the same order. -/
  left : after = before.filter fun r => r ∉ report.purged ++ report.superseded
  /-- The reported rows were there. -/
  mem : ∀ r ∈ report.purged ++ report.superseded, r ∈ before
  /-- No row is purged twice. -/
  nodup_purged : report.purged.Nodup
  /-- No row is superseded twice. -/
  nodup_superseded : report.superseded.Nodup
  /-- No row is both purged and superseded. -/
  disjoint : report.purged.Disjoint report.superseded

namespace Plain

/-- Two versions, a view, and a script that runs once. -/
def scripts : List ResolvedMigration :=
  [migration (some one) "V1__table.sql" 10, migration (some two) "V2__index.sql" 20,
    migration none "R__view.sql" 30, migration none "O__seed.sql" 40]

/-- The table and the view have changed since they ran; so has the script that runs once, and
a view that is gone was removed. -/
def history : Ledger where
  rows := [row 1 none "R__view.sql" 28, row 2 (some one) "V1__table.sql" 9,
    row 3 (some two) "V2__index.sql" 20, row 4 none "R__view.sql" 29,
    row 5 none "O__seed.sql" 39, tombstone 6 none "R__gone.sql"]
  ascending := by decide

/-- Changed scripts run again, apart from those that run once. -/
def settings : MigrationSettings := { oneShotPrefix := some "O__" }

end Plain

/-- **A pass removes exactly the rows that it reports.**  The purged ones have drifted, and the
others are superseded. -/
theorem reconcile_removes_reported {ms : List ResolvedMigration} {l : Ledger}
    {settings : MigrationSettings} (hkeys : DistinctKeys ms) (hranks : DistinctRanks l.rows)
    (hon : settings.republishOnChange = true) :
    ∃ report, (reconcile (.ok ms) l settings).outcome = .ok report ∧
      report.Accounts l.rows (reconcile (.ok ms) l settings).store.rows ∧
      (∀ r, r ∈ report.purged ↔ IsDrifted ms settings.oneShotPrefix l.rows r) ∧
      ∀ r, r ∈ report.superseded ↔ IsSuperseded ms settings.oneShotPrefix l.rows r := by
  have hview : DistinctRanks (view l).rows := hranks
  have hasc := Ledger.strictlyAscending hranks
  obtain ⟨report, hok⟩ := exists_outcome_reconcile_ledger settings hkeys hranks
  obtain ⟨hremoved, hpurged, hsuperseded⟩ := reconcile_of_ok hkeys hview hon hok
  have hrows := rows_reconcile settings hkeys hview
  have hnodup : (passSelection ms l.rows settings).rows.Nodup := nodup_rows_passSelection hasc
  rw [hremoved] at hrows
  rw [DriftSelection.rows, List.nodup_append'] at hnodup
  obtain ⟨matched, candidates, purged, superseded⟩ := report
  obtain rfl : purged = (passSelection ms l.rows settings).drifted := hpurged
  obtain rfl : superseded = (passSelection ms l.rows settings).superseded := hsuperseded
  refine ⟨_, hok, ?_, fun r => mem_drifted_passSelection hasc,
    fun r => mem_superseded_passSelection hasc⟩
  exact ⟨hrows, fun r hr => ((mem_rows_passSelection hasc).1 hr).mem, hnodup.1, hnodup.2.1,
    hnodup.2.2⟩

/-- The pass over the plain ledger purges the table and the view, with the view's older row. -/
theorem reconcile_removes_reported_history :
    ∃ report, (reconcile (.ok Plain.scripts) Plain.history Plain.settings).outcome = .ok report ∧
      report.Accounts Plain.history.rows
        (reconcile (.ok Plain.scripts) Plain.history Plain.settings).store.rows ∧
      Plain.row 4 none "R__view.sql" 29 ∈ report.purged ∧
      Plain.row 2 (some Plain.one) "V1__table.sql" 9 ∈ report.purged ∧
      Plain.row 1 none "R__view.sql" 28 ∈ report.superseded ∧
      Plain.row 5 none "O__seed.sql" 39 ∉ report.purged := by
  have hkeys : DistinctKeys Plain.scripts := by decide
  have hranks : DistinctRanks Plain.history.rows := by decide
  obtain ⟨report, hok, haccounts, hpurged, hsuperseded⟩ :=
    reconcile_removes_reported hkeys hranks (show Plain.settings.republishOnChange = true from rfl)
  refine ⟨report, hok, haccounts, (hpurged _).2 ?_, (hpurged _).2 ?_, (hsuperseded _).2 ?_,
    fun h => absurd ((hpurged _).1 h) ?_⟩
  all_goals decide

/-- **A second pass deletes nothing** and leaves the ledger as the first one left it. -/
theorem reconcile_idempotent {ms : List ResolvedMigration} {l : Ledger}
    (settings : MigrationSettings) (hkeys : DistinctKeys ms) (hranks : DistinctRanks l.rows) :
    let first := reconcile (.ok ms) l settings
    let second := reconcile (.ok ms) first.store settings
    (∃ report, first.outcome = .ok report) ∧ second.attempted = [] ∧
      second.store = first.store ∧
      ∃ report, second.outcome = .ok report ∧ report.purged = [] ∧ report.superseded = [] := by
  intro first second
  have hview : DistinctRanks (view l).rows := hranks
  obtain ⟨report, hok⟩ := exists_outcome_reconcile_ledger settings hkeys hranks
  refine ⟨⟨report, hok⟩, ?_⟩
  cases hon : settings.republishOnChange with
  | false =>
    have hsecond : second = ⟨.ok {}, first.store, [], [], []⟩ := reconcile_of_disabled hon
    simp [hsecond]
  | true =>
    have hleft : first.store.rows = l.rows.filter fun r =>
        ¬ IsSelected ms settings.oneShotPrefix l.rows r :=
      rows_reconcile_of_ok hkeys hview hon hok
    have hasc : StrictlyAscending first.store.rows :=
      strictlyAscending_rows_reconcile settings hkeys hview
    have hviewFirst : DistinctRanks (view first.store).rows := hasc.distinctRanks
    have hsecond : second = purge first.store (passSelection ms first.store.rows settings)
        settings.outOfOrder :=
      reconcile_eq_purge hkeys hviewFirst rfl hon
    -- the rows that the first pass left are none that a pass selects
    have hnone : (passSelection ms first.store.rows settings).rows = [] := by
      refine List.eq_nil_iff_forall_not_mem.2 fun r hr => ?_
      rw [mem_rows_passSelection hasc, hleft] at hr
      exact not_isSelected_filter_not_isSelected (Ledger.strictlyAscending hranks) r hr
    rw [purge_eq, hnone] at hsecond
    rw [DriftSelection.rows, List.append_eq_nil_iff] at hnone
    simp [hsecond, hnone]

/-- The second pass over the plain ledger leaves it alone. -/
theorem reconcile_idempotent_history :
    (reconcile (.ok Plain.scripts) (reconcile (.ok Plain.scripts) Plain.history
      Plain.settings).store Plain.settings).attempted = [] := by
  have hkeys : DistinctKeys Plain.scripts := by decide
  have hranks : DistinctRanks Plain.history.rows := by decide
  exact (reconcile_idempotent Plain.settings hkeys hranks).2.1

end MigrationLedger
