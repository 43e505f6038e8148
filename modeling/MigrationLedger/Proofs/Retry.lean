import MigrationLedger.Proofs.Pass

/-!
# Trying again after a failed delete

A pass that a failed delete ends early leaves a part of its selection in the ledger.  A
second pass selects among the rows that are left, and the newest of a script among them
may carry the checksum that the script has now, or be a tombstone.  The script then has
not drifted any more, and its rows stay, although a pass that had not been stopped would
have deleted them.  These stranded rows are all that sets the two ledgers apart.

## Main definitions

* `IsStranded` — the row was to be deleted, is left, and is not selected again.
* `GuardedLedger.opened` — the ledger when its guard lets everything pass.

## Main results

* `isStranded_iff` — a selected row is stranded when it is left and not selected again.
* `retry_leaves_stranded` — **what trying again leaves**, compared with a pass that succeeds.
* `retry_keeps_reverted_row` — a script that is back to earlier content may keep a row.
-/

namespace MigrationLedger

open LawfulLedger (view)

/-! ### Stranded rows -/

/-- A row was selected among those before and is left, and the newest row left of its script
is not outdated. -/
def IsStranded (ms : List ResolvedMigration) (oneShotPrefix : Option String)
    (before left : List AppliedMigration) (r : AppliedMigration) : Prop :=
  IsSelected ms oneShotPrefix before r ∧ r ∈ left ∧
    ∃ n ∈ left, IsNewestOfScript ms left n ∧ n.script = r.script ∧
      isOutdated ms oneShotPrefix n = false

instance (ms : List ResolvedMigration) (oneShotPrefix : Option String)
    (before left : List AppliedMigration) (r : AppliedMigration) :
    Decidable (IsStranded ms oneShotPrefix before left r) :=
  inferInstanceAs (Decidable (_ ∧ _))

section

variable {ms : List ResolvedMigration} {oneShotPrefix : Option String}
  {rows left : List AppliedMigration} {r : AppliedMigration}

/-- A selected row is stranded when it is left and not selected again. -/
theorem isStranded_iff (h : StrictlyAscending rows) (hleft : left.Sublist rows) :
    IsStranded ms oneShotPrefix rows left r ↔
      IsSelected ms oneShotPrefix rows r ∧ r ∈ left ∧ ¬ IsSelected ms oneShotPrefix left r := by
  have hasc : StrictlyAscending left := h.sublist hleft
  constructor
  · rintro ⟨hsel, hmem, n, -, hnew, hscript, hcurrent⟩
    refine ⟨hsel, hmem, fun hagain => ?_⟩
    obtain ⟨-, -, -, d, hd, hds⟩ := (isSelected_iff hasc).1 hagain
    -- the drifted row is the newest row left of the script, which is not outdated
    obtain rfl : d = n := hd.1.eq hasc hnew (hds.trans hscript.symm)
    exact Bool.false_ne_true (hcurrent.symm.trans hd.2)
  · rintro ⟨hsel, hmem, hkept⟩
    obtain ⟨-, hdisc, htomb, -⟩ := (isSelected_iff h).1 hsel
    obtain ⟨n, hnew, hscript⟩ := exists_isNewestOfScript hmem hdisc
    refine ⟨hsel, hmem, n, hnew.1, hnew, hscript, Bool.eq_false_iff.2 fun hout => ?_⟩
    exact hkept ((isSelected_iff hasc).2 ⟨hmem, hdisc, htomb, n, ⟨hnew, hout⟩, hscript⟩)

/-- No row is stranded where nothing was deleted. -/
theorem not_isStranded_self (h : StrictlyAscending rows) :
    ¬ IsStranded ms oneShotPrefix rows rows r := by
  rw [isStranded_iff h (List.Sublist.refl rows)]
  rintro ⟨hsel, -, hkept⟩
  exact hkept hsel

/-- When selected rows only were deleted, selecting again spares the rows that were not
selected and those that are stranded. -/
theorem filter_not_isSelected_filter (h : StrictlyAscending rows) {keep : AppliedMigration → Bool}
    (hkeep : ∀ r ∈ rows, keep r = false → IsSelected ms oneShotPrefix rows r) :
    ((rows.filter keep).filter fun r => ¬ IsSelected ms oneShotPrefix (rows.filter keep) r)
      = rows.filter fun r => ¬ IsSelected ms oneShotPrefix rows r ∨
          IsStranded ms oneShotPrefix rows (rows.filter keep) r := by
  rw [List.filter_filter]
  refine List.filter_congr fun r hr => ?_
  rw [Bool.eq_iff_iff, Bool.and_eq_true, decide_eq_true_eq, decide_eq_true_eq,
    isStranded_iff h List.filter_sublist]
  constructor
  · rintro ⟨hkept, hk⟩
    by_cases hsel : IsSelected ms oneShotPrefix rows r
    · exact .inr ⟨hsel, List.mem_filter.2 ⟨hr, hk⟩, hkept⟩
    · exact .inl hsel
  · rintro (hsel | ⟨-, hmem, hkept⟩)
    · refine ⟨fun hagain => hsel (isSelected_of_isSelected_filter h hkeep hagain), ?_⟩
      by_contra hk
      exact hsel (hkeep r hr (Bool.eq_false_iff.2 hk))
    · exact ⟨hkept, (List.mem_filter.1 hmem).2⟩

end

/-! ### Passes behind a guard that is opened -/

/-- The ledger when its guard lets everything pass. -/
def GuardedLedger.opened (g : GuardedLedger) : GuardedLedger :=
  { g with unreadable := false, refused := [] }

@[simp] theorem GuardedLedger.ledger_opened (g : GuardedLedger) : g.opened.ledger = g.ledger := rfl

section

variable {ms : List ResolvedMigration} {g : GuardedLedger}

/-- Where the guard lets everything pass, a pass succeeds. -/
theorem exists_outcome_reconcile_opened (settings : MigrationSettings) (hkeys : DistinctKeys ms)
    (hranks : DistinctRanks g.ledger.rows) :
    ∃ report, (reconcile (.ok ms) g.opened settings).outcome = .ok report := by
  have hview : DistinctRanks (view g.opened).rows := hranks
  have hread : LedgerAccess.rows g.opened
      = .ok (if g.reversed then g.ledger.rows.reverse else g.ledger.rows) := rfl
  exact exists_outcome_reconcile hkeys hview hread
    (fault_deleteAll_passSelection hview fun _ _ => rfl)

/-- What a pass leaves where the guard lets everything pass. -/
theorem rows_reconcile_opened {settings : MigrationSettings} (hkeys : DistinctKeys ms)
    (hranks : DistinctRanks g.ledger.rows) (hon : settings.republishOnChange = true) :
    (reconcile (.ok ms) g.opened settings).store.ledger.rows = g.ledger.rows.filter fun r =>
      ¬ IsSelected ms settings.oneShotPrefix g.ledger.rows r := by
  have hview : DistinctRanks (view g.opened).rows := hranks
  obtain ⟨report, hok⟩ := exists_outcome_reconcile_opened settings hkeys hranks
  exact rows_reconcile_of_ok hkeys hview hon hok

/-- What trying again leaves, in terms of the rows before the first pass. -/
theorem rows_retry {settings : MigrationSettings} (hkeys : DistinctKeys ms)
    (hranks : DistinctRanks g.ledger.rows) (hon : settings.republishOnChange = true) :
    (reconcile (.ok ms) (reconcile (.ok ms) g settings).store.opened settings).store.ledger.rows
      = g.ledger.rows.filter fun r => ¬ IsSelected ms settings.oneShotPrefix g.ledger.rows r ∨
        IsStranded ms settings.oneShotPrefix g.ledger.rows
          (reconcile (.ok ms) g settings).store.ledger.rows r := by
  have hview : DistinctRanks (view g).rows := hranks
  have hleft : (reconcile (.ok ms) g settings).store.ledger.rows = g.ledger.rows.filter fun r =>
      r ∉ (reconcile (.ok ms) g settings).removed := rows_reconcile settings hkeys hview
  have hagain := rows_reconcile_opened hkeys
    (strictlyAscending_rows_reconcile settings hkeys hview).distinctRanks hon
  rw [hagain, hleft]
  -- the first pass deleted selected rows only, wherever it was stopped
  refine filter_not_isSelected_filter (Ledger.strictlyAscending hranks) fun r _ hr => ?_
  exact isSelected_of_mem_removed hkeys hview (by simpa using hr)

end

/-- **What trying again leaves.**  Wherever the guard stopped a first pass, a second one behind
an opened guard succeeds, and leaves what a first pass behind an opened guard would have left
and the stranded rows.  So the two leave the same rows when no row is stranded, and only then. -/
theorem retry_leaves_stranded {ms : List ResolvedMigration} {g : GuardedLedger}
    (settings : MigrationSettings) (hkeys : DistinctKeys ms)
    (hranks : DistinctRanks g.ledger.rows) :
    let aborted := reconcile (.ok ms) g settings
    let retried := reconcile (.ok ms) aborted.store.opened settings
    let whole := reconcile (.ok ms) g.opened settings
    (∃ report, retried.outcome = .ok report) ∧ (∃ report, whole.outcome = .ok report) ∧
      (retried.store.ledger.rows = g.ledger.rows.filter fun r =>
        r ∈ whole.store.ledger.rows ∨
          IsStranded ms settings.oneShotPrefix g.ledger.rows aborted.store.ledger.rows r) ∧
      (retried.store.ledger = whole.store.ledger ↔
        ∀ r, ¬ IsStranded ms settings.oneShotPrefix g.ledger.rows
          aborted.store.ledger.rows r) := by
  intro aborted retried whole
  have hview : DistinctRanks (view g).rows := hranks
  have hleft := strictlyAscending_rows_reconcile settings hkeys hview
  refine ⟨exists_outcome_reconcile_opened settings hkeys hleft.distinctRanks,
    exists_outcome_reconcile_opened settings hkeys hranks, ?_⟩
  cases hon : settings.republishOnChange with
  | false =>
    have haborted : aborted = ⟨.ok {}, g, [], [], []⟩ := reconcile_of_disabled hon
    have hretried : retried = ⟨.ok {}, aborted.store.opened, [], [], []⟩ :=
      reconcile_of_disabled hon
    have hwhole : whole = ⟨.ok {}, g.opened, [], [], []⟩ := reconcile_of_disabled hon
    have hnone : ∀ r, ¬ IsStranded ms settings.oneShotPrefix g.ledger.rows g.ledger.rows r :=
      fun r => not_isStranded_self (Ledger.strictlyAscending hranks)
    have hself : (g.ledger.rows.filter fun r => r ∈ g.ledger.rows) = g.ledger.rows :=
      List.filter_eq_self.2 fun r hr => decide_eq_true hr
    simp [hretried, hwhole, haborted, hnone, hself]
  | true =>
    have hretried : retried.store.ledger.rows = _ := rows_retry hkeys hranks hon
    have hwhole : whole.store.ledger.rows = _ := rows_reconcile_opened hkeys hranks hon
    have hmem : ∀ r ∈ g.ledger.rows, r ∈ whole.store.ledger.rows ↔
        ¬ IsSelected ms settings.oneShotPrefix g.ledger.rows r := by
      intro r hr
      simp [hwhole, hr]
    constructor
    · rw [hretried]
      exact List.filter_congr fun r hr => decide_eq_decide.2 (or_congr (hmem r hr).symm Iff.rfl)
    · constructor
      · intro heq r hstranded
        have hr : r ∈ g.ledger.rows := hstranded.1.mem
        have hkept : r ∈ retried.store.ledger.rows := by
          rw [hretried]
          exact List.mem_filter.2 ⟨hr, decide_eq_true (.inr hstranded)⟩
        rw [heq] at hkept
        exact (hmem r hr).1 hkept hstranded.1
      · intro hnone
        apply Ledger.ext
        rw [hretried, hwhole]
        exact List.filter_congr fun r _ => decide_eq_decide.2
          ⟨fun h => h.resolve_right (hnone r), .inl⟩

namespace Plain

/-- A view that is back to what it was when it first ran. -/
def reverted : List ResolvedMigration := [migration none "R__v.sql" 10]

/-- The view ran, and ran again with other content; the older row cannot be deleted. -/
def stuck : GuardedLedger where
  ledger := ⟨[row 1 none "R__v.sql" 10, row 2 none "R__v.sql" 20], by decide⟩
  refused := [1]

end Plain

/-- What a pass over the plain stuck ledger leaves. -/
theorem reconcile_stuck :
    (∃ e, (reconcile (.ok Plain.reverted) Plain.stuck {}).outcome = .error e) ∧
      (reconcile (.ok Plain.reverted) Plain.stuck {}).store.ledger.rows
        = [Plain.row 1 none "R__v.sql" 10] := by
  have hkeys : DistinctKeys Plain.reverted := by decide
  have hranks : DistinctRanks (view Plain.stuck).rows := by decide
  have hselected : (passSelection Plain.reverted (view Plain.stuck).rows {}).rows
      = [Plain.row 2 none "R__v.sql" 20, Plain.row 1 none "R__v.sql" 10] :=
    (rows_passSelection (Ledger.strictlyAscending hranks)).trans (by decide)
  rw [reconcile_eq_purge hkeys hranks rfl rfl, purge_eq, hselected]
  exact ⟨⟨_, rfl⟩, rfl⟩

/-- **A script that is back to earlier content may keep a row.**  The first pass is stopped
before the older row; the second one finds that this row, now the newest, has not drifted. -/
theorem retry_keeps_reverted_row :
    let aborted := reconcile (.ok Plain.reverted) Plain.stuck {}
    let retried := reconcile (.ok Plain.reverted) aborted.store.opened {}
    let whole := reconcile (.ok Plain.reverted) Plain.stuck.opened {}
    DistinctKeys Plain.reverted ∧ DistinctRanks Plain.stuck.ledger.rows ∧
      (∃ e, aborted.outcome = .error e) ∧ (∃ report, retried.outcome = .ok report) ∧
      (∃ report, whole.outcome = .ok report) ∧
      retried.store.ledger.rows = [Plain.row 1 none "R__v.sql" 10] ∧
      whole.store.ledger.rows = [] := by
  intro aborted retried whole
  have hkeys : DistinctKeys Plain.reverted := by decide
  have hranks : DistinctRanks (view Plain.stuck).rows := by decide
  have hleft := strictlyAscending_rows_reconcile {} hkeys hranks
  refine ⟨hkeys, hranks, reconcile_stuck.1,
    exists_outcome_reconcile_opened {} hkeys hleft.distinctRanks,
    exists_outcome_reconcile_opened {} hkeys hranks, ?_, ?_⟩
  · have hretried := rows_reconcile_opened hkeys hleft.distinctRanks
      (show ({} : MigrationSettings).republishOnChange = true from rfl)
    rw [reconcile_stuck.2] at hretried
    exact hretried.trans (by decide)
  · exact (rows_reconcile_opened hkeys hranks rfl).trans (by decide)

/-- In the plain stuck ledger the older row is stranded, so that trying again leaves it. -/
theorem retry_leaves_stranded_row :
    (reconcile (.ok Plain.reverted) (reconcile (.ok Plain.reverted) Plain.stuck {}).store.opened
      {}).store.ledger ≠ (reconcile (.ok Plain.reverted) Plain.stuck.opened {}).store.ledger := by
  have hkeys : DistinctKeys Plain.reverted := by decide
  have hranks : DistinctRanks Plain.stuck.ledger.rows := by decide
  obtain ⟨-, -, -, hsame⟩ := retry_leaves_stranded {} hkeys hranks
  intro heq
  refine hsame.1 heq (Plain.row 1 none "R__v.sql" 10) ?_
  rw [reconcile_stuck.2]
  decide

end MigrationLedger
