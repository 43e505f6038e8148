import MigrationLedger.Proofs.Pass
import MigrationLedger.Proofs.Planning

/-!
# What a purge opens again

Once the rows of a drifted script are deleted, nothing but tombstones is left of the
keys of the purged rows.  The next snapshot therefore lists their migrations without a
row, each once, and whether one of them waits to run is decided as if it had never run.

## Main definitions

* `OnlyTombstones` — nothing but tombstones is left of a key.

## Main results

* `onlyTombstones_of_isDrifted` — what is left of the key of a drifted row.
* `refresh_of_onlyTombstones` — a migration whose key is removed is listed once, without a row.
* `purged_key_reopens` — **a purged script is listed again, and may wait to run.**
-/

namespace MigrationLedger

open LawfulLedger (view)

/-- Every row of the key is a tombstone. -/
def OnlyTombstones (rows : List AppliedMigration) (k : Key) : Prop :=
  ∀ r ∈ rows, r.key.same k = true → r.isTombstone = true

section

variable {ms : List ResolvedMigration} {rows : List AppliedMigration}

/-- Among the rows that a pass leaves, those of the key of a drifted row are tombstones. -/
theorem onlyTombstones_of_isDrifted {oneShotPrefix : Option String} (h : StrictlyAscending rows)
    {d : AppliedMigration} (hd : IsDrifted ms oneShotPrefix rows d) :
    OnlyTombstones (rows.filter fun r => ¬ IsSelected ms oneShotPrefix rows r) d.key := by
  intro r hr hkey
  obtain ⟨hmem, hkept⟩ := List.mem_filter.1 hr
  rw [decide_eq_true_eq] at hkept
  by_contra htomb
  -- the row has the migration and the script of the drifted row, so it would be selected
  have hdisc : isDiscovered ms r = true := by
    rw [isDiscovered, migrationOf?_congr hkey]
    exact hd.1.2.1
  have hscript : d.script = r.script := (Key.script_eq_of_same hkey).symm
  exact hkept ((isSelected_iff h).2 ⟨hmem, hdisc, Bool.eq_false_iff.2 htomb, d, hd, hscript⟩)

theorem exists_migration_of_isDrifted {oneShotPrefix : Option String} (hkeys : DistinctKeys ms)
    {d : AppliedMigration} (hd : IsDrifted ms oneShotPrefix rows d) :
    ∃ m ∈ ms, m.key.same d.key = true := by
  obtain ⟨m, hm⟩ := Option.isSome_iff_exists.1 hd.1.2.1
  exact ⟨m, (migrationOf?_eq_some_iff hkeys).1 hm⟩

/-- A migration of whose key nothing but tombstones is left is listed once without a row, and
waits to run unless something applied has a greater version. -/
theorem refresh_of_onlyTombstones (hkeys : DistinctKeys ms) (h : StrictlyAscending rows)
    {m : ResolvedMigration} (hm : m ∈ ms) {k : Key} (hk : m.key.same k = true)
    (htombs : OnlyTombstones rows k) {handed : List AppliedMigration} (hp : handed.Perm rows)
    (service : InfoService) (request : Request) :
    ∃ infos state,
      service.refresh (.ok ms) (.ok handed) request = (.ok (), ⟨request, infos⟩) ∧
      infos.filter (MigrationInfo.isUnappliedOf k) = [MigrationInfo.planned m state] ∧
      (request.target = .latest → request.cherryPick = [] →
        (MigrationInfo.planned m state ∈ (InfoService.mk request infos).pending ↔
          m.isRepeatable = true ∨ request.outOfOrder = true ∨ ¬ IsOvertaken rows m)) := by
  have hlive : isLive rows m.key = false := by
    refine isLive_eq_false_of_tombstones fun r hr hrk => htombs r hr (Key.same_trans hrk hk)
  obtain ⟨infos, hrefresh, hlisted, hpending⟩ :=
    refresh_of_not_isLive hkeys h hm hk hlive hp service request
  refine ⟨infos, _, hrefresh, hlisted, fun htarget hpick => ?_⟩
  rw [hpending, Request.allows_iff_of_latest htarget hpick]

end

/-- **A purged script is listed again.**  After a pass that succeeds, nothing but tombstones is
left of the key of a purged row.  A snapshot for any request lists the migration of that key
once without a row; where the request reaches as far as it can and picks nothing, the migration
waits to run when it is repeatable, when the order does not matter, or when no applied row that
is left has a greater version. -/
theorem purged_key_reopens {σ : Type} [LedgerAccess σ] [LawfulLedger σ]
    {ms : List ResolvedMigration} {store : σ} {settings : MigrationSettings}
    (hkeys : DistinctKeys ms) (hranks : DistinctRanks (view store).rows) {report : Report}
    (hok : (reconcile (.ok ms) store settings).outcome = .ok report) {d : AppliedMigration}
    (hd : d ∈ report.purged) :
    let after := (reconcile (.ok ms) store settings).store
    OnlyTombstones (view after).rows d.key ∧
      ∃ m ∈ ms, m.key.same d.key = true ∧
        ∀ (service : InfoService) (request : Request) (handed : List AppliedMigration),
          LedgerAccess.rows after = .ok handed →
          ∃ infos state,
            service.refresh (.ok ms) (.ok handed) request = (.ok (), ⟨request, infos⟩) ∧
            infos.filter (MigrationInfo.isUnappliedOf d.key) = [MigrationInfo.planned m state] ∧
            (request.target = .latest → request.cherryPick = [] →
              (MigrationInfo.planned m state ∈ (InfoService.mk request infos).pending ↔
                m.isRepeatable = true ∨ request.outOfOrder = true ∨
                  ¬ IsOvertaken (view after).rows m)) := by
  intro after
  have hasc := Ledger.strictlyAscending hranks
  have hon : settings.republishOnChange = true := by
    by_contra hoff
    rw [reconcile_of_disabled (Bool.eq_false_iff.2 hoff)] at hok
    cases hok
    simp at hd
  have hdrifted := (mem_purged_iff hkeys hranks hon hok).1 hd
  have hleft : (view after).rows = (view store).rows.filter fun r =>
      ¬ IsSelected ms settings.oneShotPrefix (view store).rows r :=
    rows_reconcile_of_ok hkeys hranks hon hok
  have hascLeft : StrictlyAscending (view after).rows :=
    strictlyAscending_rows_reconcile settings hkeys hranks
  have htombs : OnlyTombstones (view after).rows d.key := by
    rw [hleft]
    exact onlyTombstones_of_isDrifted hasc hdrifted
  obtain ⟨m, hm, hk⟩ := exists_migration_of_isDrifted hkeys hdrifted
  refine ⟨htombs, m, hm, hk, fun service request handed hread => ?_⟩
  exact refresh_of_onlyTombstones hkeys hascLeft hm hk htombs (LawfulLedger.perm_of_rows hread)
    service request

/-- The pass over the plain ledger opens the first version again, which the second one, still
applied, keeps from running. -/
theorem purged_key_reopens_history :
    ∃ infos state,
      InfoService.refresh {} (.ok Plain.scripts) (LedgerAccess.rows
        (reconcile (.ok Plain.scripts) Plain.history Plain.settings).store) {}
          = (.ok (), ⟨{}, infos⟩) ∧
      infos.filter (MigrationInfo.isUnappliedOf ⟨some Plain.one, "V1__table.sql"⟩)
        = [.planned (Plain.migration (some Plain.one) "V1__table.sql" 10) state] ∧
      .planned (Plain.migration (some Plain.one) "V1__table.sql" 10) state
        ∉ (InfoService.mk {} infos).pending := by
  have hkeys : DistinctKeys Plain.scripts := by decide
  have hranks : DistinctRanks (view Plain.history).rows := by decide
  obtain ⟨report, hok⟩ := exists_outcome_reconcile_ledger Plain.settings hkeys hranks
  have hleft : (reconcile (.ok Plain.scripts) Plain.history Plain.settings).store.rows
      = [Plain.row 3 (some Plain.two) "V2__index.sql" 20, Plain.row 5 none "O__seed.sql" 39,
        Plain.tombstone 6 none "R__gone.sql"] :=
    (rows_reconcile_of_ok hkeys hranks rfl hok).trans (by decide)
  have hpurged : Plain.row 2 (some Plain.one) "V1__table.sql" 9 ∈ report.purged :=
    (mem_purged_iff hkeys hranks rfl hok).2 (by decide)
  obtain ⟨-, m, hm, hk, hrefresh⟩ := purged_key_reopens hkeys hranks hok hpurged
  obtain rfl : m = Plain.migration (some Plain.one) "V1__table.sql" 10 :=
    hkeys.eq_of_same hm (by decide) (Key.same_trans hk (by decide))
  obtain ⟨infos, state, hinfos, honce, hpending⟩ := hrefresh {} {} _ rfl
  refine ⟨infos, state, hinfos, honce, fun h => ?_⟩
  rcases (hpending rfl rfl).1 h with hrep | horder | hfree
  · exact absurd hrep (by decide)
  · exact absurd horder (by decide)
  · refine hfree ⟨Plain.row 3 (some Plain.two) "V2__index.sql" 20, Plain.one, Plain.two, ?_, rfl,
      rfl, by decide⟩
    rw [view_ledger, hleft]
    refine ⟨by decide, rfl, rfl, Plain.row 3 (some Plain.two) "V2__index.sql" 20, ?_, rfl⟩
    exact ⟨by decide, by decide, by decide⟩

end MigrationLedger
