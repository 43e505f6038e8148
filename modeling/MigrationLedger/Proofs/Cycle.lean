import MigrationLedger.Proofs.Appending
import MigrationLedger.Proofs.Pass

/-!
# Healing and running

A pass purges what has drifted, a run then writes a row for everything that waits.  The
new rows may be newer than all that was applied, and so move the very versions by which
the next snapshot measures: the current target reaches further, and more is overtaken.
Neither opens anything.  A run writes only what its own request allowed, so that whatever
lay above the current target has a version greater than all new ones, and what was
overtaken stays so.  New rows carry the checksums of their scripts, and where the newest
row of a script is an old one it had not drifted before.  One cycle of a pass and a run
therefore leaves nothing to do.

## Main definitions

* `Settled` — nothing waits to run, and a pass has nothing to delete.

## Main results

* `Request.Allows.of_append` — a run opens nothing that was held back before it.
* `settled_of_isRunOf` — **a run of all that waits settles a ledger without drift.**
* `heal_and_run_converges` — **a pass and a run of what waits after it settle any ledger.**
* `Settled.reconcile_store`, `Settled.runPending_eq` — neither changes a settled ledger.
-/

namespace MigrationLedger

open LawfulLedger (view)

/-! ### What a run holds back -/

section

variable {ms : List ResolvedMigration} {rows more : List AppliedMigration}
  {m : ResolvedMigration} {request : Request}

/-- What is newer than all that is applied stays so when the current target admits the
migrations of the new rows. -/
theorem IsAhead.append (hasc : StrictlyAscending (rows ++ more))
    (hmore : ∀ r ∈ more, r.isTombstone = false)
    (hadmitted : ∀ q ∈ more, ∃ n, q.version = n.version ∧ Target.current.Admits rows n)
    (h : IsAhead rows m) : IsAhead (rows ++ more) m := by
  obtain ⟨v, hv, ⟨w, hw⟩, hgt⟩ := h
  refine ⟨v, hv, ⟨w, hw.append hasc hmore⟩, fun u hu => ?_⟩
  rcases isAppliedVersion_of_append hasc hmore hu with hold | ⟨q, hq, x, hx, hxu⟩
  · exact hgt u hold
  · -- the new row is no newer than some version applied before, which `v` exceeds
    obtain ⟨n, hn, hadmits⟩ := hadmitted q hq
    obtain ⟨y, hy, hxy⟩ := exists_isAppliedVersion_of_admits (hn.symm.trans hx) hadmits ⟨w, hw⟩
    have hyv : compare y v = .lt := Std.OrientedCmp.gt_iff_lt.1 (hgt y hy)
    have hux : (compare u x).isLE = true := by
      rw [Std.OrientedCmp.eq_comm.1 hxu]
      rfl
    have huy : (compare u y).isLE = true := Std.TransCmp.isLE_trans hux hxy
    exact Std.OrientedCmp.gt_iff_lt.2 (Std.TransCmp.lt_of_isLE_of_lt huy hyv)

theorem IsOvertaken.append (hasc : StrictlyAscending (rows ++ more))
    (hmore : ∀ r ∈ more, r.isTombstone = false) (h : IsOvertaken rows m) :
    IsOvertaken (rows ++ more) m := by
  obtain ⟨r, v, w, happlied, hv, hw, hvw⟩ := h
  exact ⟨r, v, w, happlied.append hasc hmore, hv, hw, hvw⟩

/-- **A run opens nothing that was held back before it**: what the request allows after rows of
allowed migrations were appended, it allowed before. -/
theorem Request.Allows.of_append (hasc : StrictlyAscending (rows ++ more))
    (hmore : ∀ r ∈ more, r.isTombstone = false)
    (hallowed : ∀ q ∈ more, ∃ n, q.version = n.version ∧ request.Allows rows n)
    (h : request.Allows (rows ++ more) m) : request.Allows rows m := by
  have hadmitted : request.target.Admits rows m := by
    have hafter := h.admitted
    cases htarget : request.target with
    | latest => trivial
    | version w =>
      rw [htarget] at hafter
      exact hafter
    | current =>
      rw [htarget] at hafter
      intro hahead
      refine hafter (hahead.append hasc hmore fun q hq => ?_)
      obtain ⟨n, hn, hallows⟩ := hallowed q hq
      exact ⟨n, hn, htarget ▸ hallows.admitted⟩
  refine ⟨h.picked, hadmitted, ?_⟩
  rcases h.in_order with hrep | horder | hfree
  · exact .inl hrep
  · exact .inr (.inl horder)
  · exact .inr (.inr fun hover => hfree (hover.append hasc hmore))

/-- What a run is given: the migrations without a live row that the request allows. -/
theorem mem_resolved_pending_infosOf (h : StrictlyAscending rows) :
    m ∈ (InfoService.mk request (infosOf ms rows request)).pending.filterMap
        MigrationInfo.resolved ↔
      m ∈ ms ∧ isLive rows m.key = false ∧ request.Allows rows m := by
  rw [List.mem_filterMap]
  constructor
  · rintro ⟨i, hi, hm⟩
    obtain ⟨n, hn, hlive, hallows, rfl⟩ := (mem_pending_infosOf h).1 hi
    obtain rfl : n = m := Option.some.inj hm
    exact ⟨hn, hlive, hallows⟩
  · rintro ⟨hm, hlive, hallows⟩
    exact ⟨_, (mem_pending_infosOf h).2 ⟨m, hm, hlive, hallows, rfl⟩, rfl⟩

/-- Whatever waits is a discovered migration, so that a run leaves none of it out. -/
theorem map_resolved_pending_infosOf (h : StrictlyAscending rows) :
    (InfoService.mk request (infosOf ms rows request)).pending.map MigrationInfo.resolved
      = ((InfoService.mk request (infosOf ms rows request)).pending.filterMap
          MigrationInfo.resolved).map some := by
  rw [List.map_filterMap_some_eq_filter_map_isSome]
  refine (List.filter_eq_self.2 fun found hfound => ?_).symm
  obtain ⟨i, hi, rfl⟩ := List.mem_map.1 hfound
  obtain ⟨m, -, -, -, rfl⟩ := (mem_pending_infosOf h).1 hi
  rfl

theorem length_pending_infosOf_le (ms : List ResolvedMigration) (rows : List AppliedMigration)
    (request : Request) :
    (InfoService.mk request (infosOf ms rows request)).pending.length ≤ rows.length + ms.length := by
  have hunapplied : (unapplied ms rows).length ≤ ms.length := by
    rw [(unapplied_perm ms rows).length_eq]
    exact List.length_filter_le _ _
  calc (InfoService.mk request (infosOf ms rows request)).pending.length
    _ ≤ (infosOf ms rows request).length := by
      rw [InfoService.pending, length_sortBy]
      exact List.length_filter_le _ _
    _ = rows.length + (unapplied ms rows).length := by
      simpa using (infosOf_perm ms rows request).length_eq
    _ ≤ rows.length + ms.length := Nat.add_le_add_left hunapplied _

/-- Once all that waits has run, nothing waits. -/
theorem pending_infosOf_append_eq_nil (hasc : StrictlyAscending (rows ++ more))
    {runner : ResolvedMigration → Runner} (hkinds : ∀ m ∈ ms, m.kind.isTombstone = false)
    (hrun : IsRunOf runner ((InfoService.mk request (infosOf ms rows request)).pending.filterMap
      MigrationInfo.resolved) more) :
    (InfoService.mk request (infosOf ms (rows ++ more) request)).pending = [] := by
  have hrows : StrictlyAscending rows := hasc.sublist (List.sublist_append_left _ _)
  have hmore : ∀ r ∈ more, r.isTombstone = false :=
    hrun.isTombstone_eq_false fun n hn => hkinds n ((mem_resolved_pending_infosOf hrows).1 hn).1
  refine List.eq_nil_iff_forall_not_mem.2 fun i hi => ?_
  obtain ⟨m, hm, hdead, hallows, -⟩ := (mem_pending_infosOf hasc).1 hi
  have hfresh : ¬ (isLive rows m.key = true ∨ ∃ q ∈ more, q.key.same m.key = true) := by
    rw [← isLive_append hmore, hdead]
    exact Bool.false_ne_true
  have hbefore : request.Allows rows m := by
    refine hallows.of_append hasc hmore fun q hq => ?_
    obtain ⟨n, hn, hq⟩ := hrun.exists_migration hq
    exact ⟨n, by rw [hq]; rfl, ((mem_resolved_pending_infosOf hrows).1 hn).2.2⟩
  -- the migration waited before the run, so that one of the new rows is its own
  have hwaited := (mem_resolved_pending_infosOf hrows).2
    ⟨hm, Bool.eq_false_iff.2 fun hlive => hfresh (.inl hlive), hbefore⟩
  have hkey : m.key ∈ more.map AppliedMigration.key := by
    rw [hrun.map_key]
    exact List.mem_map_of_mem hwaited
  obtain ⟨q, hq, hqk⟩ := List.mem_map.1 hkey
  exact hfresh (.inr ⟨q, hq, by rw [hqk]; exact Key.same_self _⟩)

end

/-! ### Drift after a run -/

section

variable {ms : List ResolvedMigration} {rows more : List AppliedMigration}
  {oneShotPrefix : Option String}

/-- A new row carries the checksum of its script. -/
theorem isOutdated_rowOf (hkeys : DistinctKeys ms) {m : ResolvedMigration} (hm : m ∈ ms)
    (runner : Runner) (rank : Int32) :
    isOutdated ms oneShotPrefix (runner.rowOf m rank) = false := by
  have hfound : migrationOf? ms m.key = some m :=
    (migrationOf?_eq_some_iff hkeys).2 ⟨hm, Key.same_self _⟩
  have hsum : (runner.rowOf m rank).checksum = m.checksum := rfl
  simp [isOutdated, hfound, hsum]

/-- Rows that are not outdated bring no drift. -/
theorem IsDrifted.of_append (hfresh : ∀ q ∈ more, isOutdated ms oneShotPrefix q = false)
    {r : AppliedMigration} (h : IsDrifted ms oneShotPrefix (rows ++ more) r) :
    IsDrifted ms oneShotPrefix rows r := by
  obtain ⟨⟨hr, hdisc, hnewest⟩, hout⟩ := h
  rcases List.mem_append.1 hr with hr | hr
  · exact ⟨⟨hr, hdisc, fun q hq => hnewest q (List.mem_append_left _ hq)⟩, hout⟩
  · exact absurd ((hfresh r hr).symm.trans hout) Bool.false_ne_true

/-- Where nothing has drifted, nothing is selected. -/
theorem rows_passSelection_eq_nil {settings : MigrationSettings} (h : StrictlyAscending rows)
    (hnone : ∀ r, ¬ IsDrifted ms settings.oneShotPrefix rows r) :
    (passSelection ms rows settings).rows = [] := by
  refine List.eq_nil_iff_forall_not_mem.2 fun r hr => ?_
  obtain ⟨-, -, -, d, hd, -⟩ := (isSelected_iff h).1 ((mem_rows_passSelection h).1 hr)
  exact hnone d hd

end

/-! ### Settled ledgers -/

/-- Nothing waits to run under the settings, and a pass has nothing to delete. -/
structure Settled (ms : List ResolvedMigration) (l : Ledger) (settings : MigrationSettings) :
    Prop where
  /-- Nothing waits in a new snapshot. -/
  nothing_waits : ∃ service,
    InfoService.load (.ok ms) (LedgerAccess.rows l) settings.request = .ok service ∧
      service.pending = []
  /-- A pass succeeds without an attempt to delete a row. -/
  nothing_drifted : ∃ report, (reconcile (.ok ms) l settings).outcome = .ok report ∧
    report.purged = [] ∧ report.superseded = [] ∧
      (reconcile (.ok ms) l settings).attempted = [] ∧ (reconcile (.ok ms) l settings).store = l

namespace Settled

variable {ms : List ResolvedMigration} {l : Ledger} {settings : MigrationSettings}

theorem reconcile_store (h : Settled ms l settings) : (reconcile (.ok ms) l settings).store = l := by
  obtain ⟨-, -, -, -, -, hstore⟩ := h.nothing_drifted
  exact hstore

theorem runPending_eq (h : Settled ms l settings) (runner : Runner) :
    runPending runner (.ok ms) l settings = (.ok [], l) := by
  obtain ⟨service, hload, hnone⟩ := h.nothing_waits
  rw [runPending, hload]
  simp only [hnone, List.filterMap_nil]
  rfl

end Settled

section

variable {ms : List ResolvedMigration} {l : Ledger} {settings : MigrationSettings}

/-- **A run of all that waits settles a ledger without drift.** -/
theorem settled_of_isRunOf (hkeys : DistinctKeys ms)
    (hkinds : ∀ m ∈ ms, m.kind.isTombstone = false) (hon : settings.republishOnChange = true)
    (hnone : ∀ r, ¬ IsDrifted ms settings.oneShotPrefix l.rows r) {after : Ledger}
    {more : List AppliedMigration} (hafter : after.rows = l.rows ++ more)
    (hasc : StrictlyAscending after.rows) {runner : ResolvedMigration → Runner}
    (hrun : IsRunOf runner ((InfoService.mk settings.request
      (infosOf ms l.rows settings.request)).pending.filterMap MigrationInfo.resolved) more) :
    Settled ms after settings := by
  have hranks : DistinctRanks (view after).rows := hasc.distinctRanks
  have hrows : StrictlyAscending l.rows := by
    rw [hafter] at hasc
    exact hasc.sublist (List.sublist_append_left _ _)
  have hfresh : ∀ q ∈ more, isOutdated ms settings.oneShotPrefix q = false := by
    intro q hq
    obtain ⟨m, hm, hq⟩ := hrun.exists_migration hq
    rw [hq]
    exact isOutdated_rowOf hkeys ((mem_resolved_pending_infosOf hrows).1 hm).1 _ _
  have hselected : (passSelection ms after.rows settings).rows = [] := by
    refine rows_passSelection_eq_nil hasc fun r hr => hnone r ?_
    rw [hafter] at hr
    exact hr.of_append hfresh
  constructor
  · refine ⟨_, load_eq_ok hkeys hasc (List.Perm.refl _) settings.request, ?_⟩
    rw [hafter] at hasc ⊢
    exact pending_infosOf_append_eq_nil hasc hkinds hrun
  · have hpass := reconcile_eq_purge hkeys hranks rfl hon
    rw [view_ledger, purge_eq, hselected] at hpass
    rw [DriftSelection.rows, List.append_eq_nil_iff] at hselected
    rw [hpass]
    exact ⟨_, rfl, hselected.1, hselected.2, rfl, rfl⟩

end

namespace Plain

/-- Runs go up to the newest applied version, in any order, and a script that runs once stays. -/
def catchingUp : MigrationSettings :=
  { target := .current, outOfOrder := true, oneShotPrefix := some "O__" }

/-- A runner. -/
def runner : Runner := { installedBy := "", installedOn := moment, executionTime := 0 }

end Plain

/-- **A pass and a run of what waits after it settle any ledger**, whoever runs the migrations.
Every migration that waits gets its row, while there is room for their ranks. -/
theorem heal_and_run_converges {ms : List ResolvedMigration} {l : Ledger}
    {settings : MigrationSettings} (hkeys : DistinctKeys ms)
    (hkinds : ∀ m ∈ ms, m.kind.isTombstone = false) (hranks : DistinctRanks l.rows)
    (hon : settings.republishOnChange = true) (runner : ResolvedMigration → Runner) :
    let healed := reconcile (.ok ms) l settings
    (∃ report, healed.outcome = .ok report) ∧
      ∃ service waiting,
        InfoService.load (.ok ms) (LedgerAccess.rows healed.store) settings.request
          = .ok service ∧
        service.pending.map MigrationInfo.resolved = waiting.map some ∧
        (healed.store.HasRoom waiting.length →
          ∃ rows after, appendRun runner healed.store waiting = (.ok rows, after) ∧
            IsRunOf runner waiting rows ∧ after.rows = healed.store.rows ++ rows ∧
            Settled ms after settings) := by
  intro healed
  have hview : DistinctRanks (view l).rows := hranks
  obtain ⟨report, hok⟩ := exists_outcome_reconcile_ledger settings hkeys hranks
  have hasc : StrictlyAscending healed.store.rows :=
    strictlyAscending_rows_reconcile settings hkeys hview
  have hnone : ∀ r, ¬ IsDrifted ms settings.oneShotPrefix healed.store.rows r := by
    have hleft : healed.store.rows = l.rows.filter fun r =>
        ¬ IsSelected ms settings.oneShotPrefix l.rows r :=
      rows_reconcile_of_ok hkeys hview hon hok
    intro r hr
    rw [hleft] at hr
    exact not_isSelected_filter_not_isSelected (Ledger.strictlyAscending hranks) r (.inl hr)
  refine ⟨⟨report, hok⟩, _, _, load_eq_ok hkeys hasc (List.Perm.refl _) settings.request,
    map_resolved_pending_infosOf hasc, fun hroom => ?_⟩
  obtain ⟨rows, after, hrun, hof, hafter, hascAfter⟩ := appendRun_of_hasRoom runner hroom hasc
  exact ⟨rows, after, hrun, hof, hafter,
    settled_of_isRunOf hkeys hkinds hon hnone hafter hascAfter hof⟩

/-- The plain ledger is settled once the table and the view have run again. -/
theorem heal_and_run_converges_history :
    let healed := reconcile (.ok Plain.scripts) Plain.history Plain.catchingUp
    ∃ waiting rows after,
      Plain.migration (some Plain.one) "V1__table.sql" 10 ∈ waiting ∧
      appendRun (fun _ => Plain.runner) healed.store waiting = (.ok rows, after) ∧
      IsRunOf (fun _ => Plain.runner) waiting rows ∧
      Settled Plain.scripts after Plain.catchingUp := by
  intro healed
  have hkeys : DistinctKeys Plain.scripts := by decide
  have hranks : DistinctRanks Plain.history.rows := by decide
  have hview : DistinctRanks (view Plain.history).rows := hranks
  have hon : Plain.catchingUp.republishOnChange = true := rfl
  obtain ⟨⟨report, hok⟩, service, waiting, hload, hwaiting, hrun⟩ :=
    heal_and_run_converges hkeys (by decide) hranks hon fun _ => Plain.runner
  have hleft : healed.store.rows = [Plain.row 3 (some Plain.two) "V2__index.sql" 20,
      Plain.row 5 none "O__seed.sql" 39, Plain.tombstone 6 none "R__gone.sql"] :=
    (rows_reconcile_of_ok hkeys hview rfl hok).trans (by decide)
  have hasc : StrictlyAscending healed.store.rows :=
    strictlyAscending_rows_reconcile Plain.catchingUp hkeys hview
  obtain rfl : ⟨Plain.catchingUp.request, infosOf Plain.scripts healed.store.rows
      Plain.catchingUp.request⟩ = service :=
    Except.ok.inj ((load_eq_ok hkeys hasc (List.Perm.refl _) _).symm.trans hload)
  have hlength : waiting.length ≤ 7 := by
    have hle := length_pending_infosOf_le Plain.scripts healed.store.rows Plain.catchingUp.request
    have heq := congrArg List.length hwaiting
    rw [List.length_map, List.length_map] at heq
    rw [heq, hleft] at hle
    exact hle
  have hroom : healed.store.HasRoom 7 := by
    rw [Ledger.HasRoom, Ledger.lastRank?, hleft]
    decide
  have hwaits : some (Plain.migration (some Plain.one) "V1__table.sql" 10) ∈ waiting.map some := by
    rw [← hwaiting]
    refine List.mem_map.2 ⟨_, (mem_pending_infosOf hasc).2 ⟨_, List.mem_cons_self, ?_, ?_, rfl⟩, rfl⟩
    · rw [hleft]
      decide
    · rw [← isPending_plannedState_iff_allows hasc, hleft]
      decide
  obtain ⟨rows, after, happend, hof, -, hsettled⟩ := hrun (hroom.mono hlength)
  exact ⟨waiting, rows, after, by simpa using hwaits, happend, hof, hsettled⟩

end MigrationLedger
