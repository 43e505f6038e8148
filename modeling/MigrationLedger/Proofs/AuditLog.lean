import MigrationLedger.Proofs.Completeness
import MigrationLedger.Proofs.Refusal

/-!
# What the audit log is told

A pass deletes two sorts of rows: those that have drifted, and the older rows of their
scripts.  The audit log is told of the first sort only.  Wherever the pass stops, every
drifted row that it removed is told once, with all that it held, and nothing else is; of
the superseded rows that it removed the log knows nothing.

## Main definitions

* `PurgeEvent.tells` — the event tells of a row: its script, its rank and all it held.

## Main results

* `events_reconcile` — the events are those of the drifted rows among the removed ones, in order.
* `countP_tells_reconcile` — how often a row is told.
* `drifted_rows_are_told` — **what a pass tells the audit log**, wherever it stops.
* `superseded_row_is_not_told` — a pass removes a row and tells nothing of it.
-/

namespace MigrationLedger

open LawfulLedger (view)

/-- The event tells of the row: its script, its rank and all it held. -/
def PurgeEvent.tells (r : AppliedMigration) (e : PurgeEvent) : Bool :=
  e.row.script == r.script && e.row.installedRank == r.installedRank
    && e.record == r.record.write

@[simp] theorem PurgeEvent.tells_self (r : AppliedMigration) (outOfOrder : Bool) :
    tells r ⟨r, outOfOrder⟩ = true := by
  simp [tells, record]

theorem PurgeEvent.installedRank_eq_of_tells {r : AppliedMigration} {e : PurgeEvent}
    (h : e.tells r = true) : e.row.installedRank = r.installedRank := by
  simp only [tells, Bool.and_eq_true, beq_iff_eq] at h
  exact h.1.2

section

variable {σ : Type} [LedgerAccess σ]

/-- A pass over migrations that share a key does nothing. -/
theorem reconcile_of_hasDuplicate {ms : List ResolvedMigration} (h : HasDuplicate ms) (store : σ)
    (settings : MigrationSettings) :
    ∃ outcome, reconcile (.ok ms) store settings = ⟨outcome, store, [], [], []⟩ := by
  cases hon : settings.republishOnChange with
  | false => exact ⟨_, reconcile_of_disabled hon⟩
  | true =>
    have hselection : ∃ e, selectionOf (.ok ms) (LedgerAccess.rows store) settings = .error e := by
      cases LedgerAccess.rows store with
      | error e => exact ⟨e, rfl⟩
      | ok handed =>
        obtain ⟨m, n, -, -, hrefresh⟩ := refresh_of_hasDuplicate h {} handed (passRequest settings)
        exact ⟨duplicateError n, by rw [selectionOf, InfoService.load, hrefresh]; rfl⟩
    obtain ⟨e, hselection⟩ := hselection
    exact ⟨.error e, by rw [reconcile, if_pos hon, hselection]⟩

variable [LawfulLedger σ] {store : σ}

/-- Whatever is discovered, a pass does nothing or purges its selection. -/
theorem reconcile_idle_or_purge (ms : List ResolvedMigration) (settings : MigrationSettings)
    (hranks : DistinctRanks (view store).rows) :
    (∃ outcome, reconcile (.ok ms) store settings = ⟨outcome, store, [], [], []⟩) ∨
      DistinctKeys ms ∧ reconcile (.ok ms) store settings
        = purge store (passSelection ms (view store).rows settings) settings.outOfOrder := by
  by_cases hkeys : DistinctKeys ms
  · rcases reconcile_cases settings hkeys hranks with ⟨-, h⟩ | ⟨e, h⟩ | ⟨-, h⟩
    · exact .inl ⟨_, h⟩
    · exact .inl ⟨_, h⟩
    · exact .inr ⟨hkeys, h⟩
  · exact .inl (reconcile_of_hasDuplicate (hasDuplicate_iff.2 hkeys) store settings)

/-- The removed rows were in the ledger, none of them twice, and the others are left. -/
theorem removed_reconcile (ms : List ResolvedMigration) (settings : MigrationSettings)
    (hranks : DistinctRanks (view store).rows) :
    let pass := reconcile (.ok ms) store settings
    (∀ r ∈ pass.removed, r ∈ (view store).rows) ∧ pass.removed.Nodup ∧
      (view pass.store).rows = (view store).rows.filter fun r => r ∉ pass.removed := by
  intro pass
  rcases reconcile_idle_or_purge ms settings hranks with ⟨outcome, h⟩ | ⟨hkeys, -⟩
  · have hpass : pass = ⟨outcome, store, [], [], []⟩ := h
    simp [hpass]
  · obtain ⟨rest, hrest⟩ := exists_rows_passSelection_eq settings hkeys hranks
    have hnodup : (passSelection ms (view store).rows settings).rows.Nodup :=
      nodup_rows_passSelection (Ledger.strictlyAscending hranks)
    rw [hrest] at hnodup
    exact ⟨fun r hr => (isSelected_of_mem_removed hkeys hranks hr).mem,
      (List.nodup_append'.1 hnodup).1, rows_reconcile settings hkeys hranks⟩

/-- **The audit log is told of the drifted rows among the removed ones**, in the order in which
they were removed. -/
theorem events_reconcile (ms : List ResolvedMigration) (settings : MigrationSettings)
    (hranks : DistinctRanks (view store).rows) :
    (reconcile (.ok ms) store settings).events
      = ((reconcile (.ok ms) store settings).removed.filter fun r =>
          IsDrifted ms settings.oneShotPrefix (view store).rows r).map fun r =>
            PurgeEvent.mk r settings.outOfOrder := by
  rcases reconcile_idle_or_purge ms settings hranks with ⟨outcome, h⟩ | ⟨hkeys, h⟩
  · rw [h]
    rfl
  · have hasc := Ledger.strictlyAscending hranks
    obtain ⟨rest, hrest, -⟩ := removed_deleteAll store
      (passSelection ms (view store).rows settings).rows
    -- the drifted rows stand in front of the selection, and the removed ones are its front
    have hfront := filter_mem_of_append (nodup_rows_passSelection hasc) hrest
    rw [h, purge_eq]
    simp only [← hfront, mem_drifted_passSelection hasc]

/-- How often a pass tells the audit log of a row of the ledger. -/
theorem countP_tells_reconcile (ms : List ResolvedMigration) (settings : MigrationSettings)
    (hranks : DistinctRanks (view store).rows) {r : AppliedMigration}
    (hr : r ∈ (view store).rows) :
    (reconcile (.ok ms) store settings).events.countP (PurgeEvent.tells r)
      = if r ∈ (reconcile (.ok ms) store settings).removed ∧
          IsDrifted ms settings.oneShotPrefix (view store).rows r then 1 else 0 := by
  obtain ⟨hmem, hnodup, -⟩ := removed_reconcile ms settings hranks
  have hasc := Ledger.strictlyAscending hranks
  let told := (reconcile (.ok ms) store settings).removed.filter fun q =>
    IsDrifted ms settings.oneShotPrefix (view store).rows q
  have hcongr : told.countP (PurgeEvent.tells r ∘ fun q => PurgeEvent.mk q settings.outOfOrder)
      = told.count r := by
    refine List.countP_congr fun q hq => ?_
    have hq : q ∈ (view store).rows := hmem q (List.mem_filter.1 hq).1
    constructor
    · intro htells
      -- rows of distinct ranks are known by their ranks
      have hqr := hasc.eq_of_rank_eq hq hr (PurgeEvent.installedRank_eq_of_tells htells)
      exact beq_iff_eq.2 hqr
    · intro hqr
      obtain rfl : q = r := beq_iff_eq.1 hqr
      exact PurgeEvent.tells_self q _
  rw [events_reconcile ms settings hranks, List.countP_map, hcongr, (hnodup.filter _).count]
  simp

end

/-- The pass over the plain ledger removes the two rows of the view and the row of the table. -/
theorem removed_reconcile_history :
    (reconcile (.ok Plain.scripts) Plain.history Plain.settings).removed
      = [Plain.row 4 none "R__view.sql" 29, Plain.row 2 (some Plain.one) "V1__table.sql" 9,
        Plain.row 1 none "R__view.sql" 28] := by
  have hkeys : DistinctKeys Plain.scripts := by decide
  have hranks : DistinctRanks (view Plain.history).rows := by decide
  obtain ⟨report, hok⟩ := exists_outcome_reconcile_ledger Plain.settings hkeys hranks
  rw [(reconcile_of_ok hkeys hranks rfl hok).1]
  exact (rows_passSelection (Ledger.strictlyAscending hranks)).trans (by decide)

/-- **What a pass tells the audit log**, wherever it stops: every drifted row that it removed, once,
and nothing else.  The other rows that it removed, of which the log is told nothing, are
superseded. -/
theorem drifted_rows_are_told {σ : Type} [LedgerAccess σ] [LawfulLedger σ]
    (ms : List ResolvedMigration) {store : σ} (settings : MigrationSettings)
    (hranks : DistinctRanks (view store).rows) :
    let rows := (view store).rows
    let pass := reconcile (.ok ms) store settings
    ((view pass.store).rows = rows.filter fun r => r ∉ pass.removed) ∧
      (∀ r ∈ rows, pass.events.countP (PurgeEvent.tells r)
        = if r ∈ pass.removed ∧ IsDrifted ms settings.oneShotPrefix rows r then 1 else 0) ∧
      (∀ e ∈ pass.events, ∃ r ∈ pass.removed, e.tells r = true) ∧
      ∀ r ∈ pass.removed, ¬ IsDrifted ms settings.oneShotPrefix rows r →
        IsSuperseded ms settings.oneShotPrefix rows r := by
  intro rows pass
  obtain ⟨-, -, hleft⟩ := removed_reconcile ms settings hranks
  refine ⟨hleft, fun r hr => countP_tells_reconcile ms settings hranks hr, fun e he => ?_,
    fun r hr hnot => ?_⟩
  · have he : e ∈ (reconcile (.ok ms) store settings).events := he
    rw [events_reconcile ms settings hranks] at he
    obtain ⟨r, hr, rfl⟩ := List.mem_map.1 he
    exact ⟨r, (List.mem_filter.1 hr).1, PurgeEvent.tells_self r _⟩
  · rcases reconcile_idle_or_purge ms settings hranks with ⟨outcome, h⟩ | ⟨hkeys, -⟩
    · have hpass : pass = ⟨outcome, store, [], [], []⟩ := h
      simp [hpass] at hr
    · exact (isSelected_of_mem_removed hkeys hranks hr).resolve_left hnot

/-- Of the two rows of the view that the pass over the plain ledger removes it tells the newer
one. -/
theorem drifted_rows_are_told_history :
    let pass := reconcile (.ok Plain.scripts) Plain.history Plain.settings
    pass.events.countP (PurgeEvent.tells (Plain.row 4 none "R__view.sql" 29)) = 1 := by
  intro pass
  have hranks : DistinctRanks (view Plain.history).rows := by decide
  obtain ⟨-, htold, -, -⟩ := drifted_rows_are_told Plain.scripts Plain.settings hranks
  refine (htold _ (by decide)).trans (if_pos ⟨?_, by decide⟩)
  rw [removed_reconcile_history]
  exact List.mem_cons_self

/-- **A pass removes a row and tells nothing of it**: the older row of the view, superseded by the
newer one. -/
theorem superseded_row_is_not_told :
    let pass := reconcile (.ok Plain.scripts) Plain.history Plain.settings
    let older := Plain.row 1 none "R__view.sql" 28
    DistinctRanks Plain.history.rows ∧ (∃ report, pass.outcome = .ok report) ∧
      older ∈ pass.removed ∧ pass.events.countP (PurgeEvent.tells older) = 0 := by
  intro pass older
  have hkeys : DistinctKeys Plain.scripts := by decide
  have hranks : DistinctRanks (view Plain.history).rows := by decide
  refine ⟨hranks, exists_outcome_reconcile_ledger Plain.settings hkeys hranks, ?_, ?_⟩
  · change older ∈ (reconcile (.ok Plain.scripts) Plain.history Plain.settings).removed
    rw [removed_reconcile_history]
    decide
  · refine (countP_tells_reconcile Plain.scripts Plain.settings hranks (by decide)).trans
      (if_neg ?_)
    rintro ⟨-, hdrifted⟩
    exact absurd hdrifted (by decide)

end MigrationLedger
