import MigrationLedger.Proofs.Validation

/-!
# The order of enumeration

Sources hand out migrations, and ledgers hand out rows, in an order of their own.  Nothing that
is made of them depends on it.  Rows are known by their ranks and are put in ascending order
first.  Migrations are known by their keys: each is looked up by key, or compared with all others,
or listed at the place of its key.  Versions spelled differently can be the greatest ones, and
which of these is found does depend on the order, but every question asked of it does not.
Validation collects the newest row of each key without an order, and sorts what it collected.

## Main definitions

* `isNewerThanDiscovered` — the version of a row is greater than every discovered one.
* `InfoService.validateFrom` — validation from the newest rows in some order.

## Main results

* `undiscoveredState_newestDiscovered?` — a row that is not discovered is measured by all
  discovered versions.
* `infosOf_eq_of_perm` — **the infos do not depend on the order of the migrations.**
* `InfoService.validateFrom_of_perm` — nor does validation on the order of the newest rows.
* `snapshots_ignore_enumeration_order` — snapshots and passes over the same migrations and the
  same rows are the same.
-/

namespace MigrationLedger

section

variable {ms others : List ResolvedMigration} {rows : List AppliedMigration}

/-! ### Migrations in another order -/

theorem DistinctKeys.of_perm (h : DistinctKeys ms) (hp : others.Perm ms) : DistinctKeys others :=
  (hp.pairwise_iff fun {m n} hmn => by rwa [Key.same_comm]).2 h

theorem migrationOf?_eq_of_perm (h : DistinctKeys ms) (hp : others.Perm ms) (k : Key) :
    migrationOf? others k = migrationOf? ms k := by
  refine Option.ext fun m => ?_
  rw [migrationOf?_eq_some_iff h, migrationOf?_eq_some_iff (h.of_perm hp), hp.mem_iff]

/-- The row has a version, and it is greater than every discovered one. -/
def isNewerThanDiscovered (ms : List ResolvedMigration) (r : AppliedMigration) : Bool :=
  r.version.any fun v => ms.all fun m => m.version.all fun w => compare v w == .gt

/-- A version is greater than the greatest discovered one when it is greater than all of them. -/
theorem compare_newestDiscovered? {newest : Version} (h : newestDiscovered? ms = some newest)
    (v : Version) : (compare v newest == .gt)
      = ms.all fun m => m.version.all fun w => compare v w == .gt := by
  rw [Bool.eq_iff_iff, List.all_eq_true]
  constructor
  · intro hv m hm
    rw [Option.all_eq_true]
    intro w hw
    have hle := isLE_of_greatestBy? h w (List.mem_filterMap.2 ⟨m, hm, hw⟩)
    rw [beq_iff_eq, Std.OrientedCmp.gt_iff_lt] at hv ⊢
    exact Std.TransCmp.lt_of_isLE_of_lt hle hv
  · intro hall
    -- the greatest version is that of some migration
    obtain ⟨m, hm, hw⟩ := List.mem_filterMap.1 (mem_of_greatestBy? h)
    exact (Option.all_eq_true _ _).1 (hall m hm) newest hw

/-- A row that is not discovered is measured by all discovered versions, in no order. -/
theorem undiscoveredState_newestDiscovered? (ms : List ResolvedMigration) (r : AppliedMigration) :
    undiscoveredState (newestDiscovered? ms) r
      = if isNewerThanDiscovered ms r then .future else .missing := by
  unfold isNewerThanDiscovered
  cases hv : r.version with
  | none => simp [undiscoveredState, hv]
  | some v =>
    cases hn : newestDiscovered? ms with
    | some newest => simp [undiscoveredState, hv, ← compare_newestDiscovered? hn v]
    | none =>
      -- without a discovered version there is nothing that `v` is not greater than
      have hnone : ms.filterMap ResolvedMigration.version = [] := greatestBy?_eq_none_iff.1 hn
      have hall : (ms.all fun m => m.version.all fun w => compare v w == .gt) = true := by
        rw [List.all_eq_true]
        intro m hm
        rw [List.filterMap_eq_nil_iff.1 hnone m hm]
        rfl
      simp [undiscoveredState, hv, hall]

theorem undiscoveredState_eq_of_perm (hp : others.Perm ms) (r : AppliedMigration) :
    undiscoveredState (newestDiscovered? others) r
      = undiscoveredState (newestDiscovered? ms) r := by
  rw [undiscoveredState_newestDiscovered?, undiscoveredState_newestDiscovered?,
    isNewerThanDiscovered, isNewerThanDiscovered]
  simp only [hp.all_eq]

theorem appliedInfo_eq_of_perm (h : DistinctKeys ms) (hp : others.Perm ms)
    (r : AppliedMigration) : appliedInfo others rows r = appliedInfo ms rows r := by
  have hstate : appliedState others rows r = appliedState ms rows r := by
    unfold appliedState
    rw [migrationOf?_eq_of_perm h hp, undiscoveredState_eq_of_perm hp]
  rw [appliedInfo, appliedInfo, migrationOf?_eq_of_perm h hp, hstate]

/-- Migrations of distinct keys have one order by key. -/
theorem sortBy_key_eq_of_perm (h : DistinctKeys ms) (hp : others.Perm ms) :
    sortBy (compareOn ResolvedMigration.key) others
      = sortBy (compareOn ResolvedMigration.key) ms :=
  sortBy_eq_sortBy_of_perm (h.of_perm hp).compare_key_ne hp

/-- **The infos do not depend on the order of the migrations.** -/
theorem infosOf_eq_of_perm (h : DistinctKeys ms) (hp : others.Perm ms)
    (rows : List AppliedMigration) (request : Request) :
    infosOf others rows request = infosOf ms rows request := by
  have hinfos : appliedInfo others rows = appliedInfo ms rows :=
    funext fun r => appliedInfo_eq_of_perm h hp r
  rw [infosOf, infosOf, unapplied, unapplied, sortBy_key_eq_of_perm h hp, hinfos]

/-! ### Validation from collected rows -/

/-- The order in which validation goes through the newest rows. -/
def compareEntry (e f : MigrationInfo × AppliedMigration) : Ordering :=
  MigrationInfo.compareRank e.1 f.1

instance : Std.TransCmp compareEntry where
  eq_swap {e f} := @Std.OrientedCmp.eq_swap _ MigrationInfo.compareRank _ e.1 f.1
  isLE_trans {e f g} := @Std.TransCmp.isLE_trans _ MigrationInfo.compareRank _ e.1 f.1 g.1

/-- Validation, when the newest row of each key was collected in some order. -/
def InfoService.validateFrom (s : InfoService)
    (collected : List (MigrationInfo × AppliedMigration)) : List ValidationError :=
  s.stateErrors ++ (sortBy compareEntry collected).filterMap fun (i, a) => mismatch? i a

/-- The newest successful rows stand in the order of the ledger. -/
theorem pairwise_newestPerKey_infosOf (h : StrictlyAscending rows) (request : Request) :
    (InfoService.newestPerKey (InfoService.mk request (infosOf ms rows request)).successes).Pairwise
      fun e f => compareEntry e f = .lt := by
  have hasc : StrictlyAscending (rows.filter fun r => appliedState ms rows r = .success) :=
    h.sublist List.filter_sublist
  rw [successes_infosOf h, newestPerKey_map hasc, List.pairwise_map]
  exact (hasc.sublist List.filter_sublist).imp compareRank_appliedInfo

/-- **Validation does not depend on the order in which the newest rows were collected.** -/
theorem InfoService.validateFrom_of_perm (h : StrictlyAscending rows) (request : Request)
    {collected : List (MigrationInfo × AppliedMigration)}
    (hp : collected.Perm
      (newestPerKey (InfoService.mk request (infosOf ms rows request)).successes)) :
    (InfoService.mk request (infosOf ms rows request)).validateFrom collected
      = (InfoService.mk request (infosOf ms rows request)).validate := by
  rw [validateFrom, sortBy_eq_of_perm (pairwise_newestPerKey_infosOf h request) hp, validate,
    mismatches]

end

/-- **Snapshots and passes do not depend on the order of enumeration.**  Sources that hand out the
same migrations, and ledgers that hand out the same rows, each in an order of its own, make the
same snapshot: the service holds the same infos for the same request, so that all its answers are
the same, validation also when it collected the newest rows in another order.  And a pass over
either ledger purges one and the same selection. -/
theorem snapshots_ignore_enumeration_order {ms others : List ResolvedMigration}
    {rows handed : List AppliedMigration} (hkeys : DistinctKeys ms) (hms : others.Perm ms)
    (hranks : DistinctRanks rows) (hrows : handed.Perm rows) :
    (∀ request, ∃ s : InfoService,
      (∀ service : InfoService,
        service.refresh (.ok ms) (.ok rows) request = (.ok (), s) ∧
        service.refresh (.ok others) (.ok handed) request = (.ok (), s)) ∧
      ∀ collected, collected.Perm (InfoService.newestPerKey s.successes) →
        s.validateFrom collected = s.validate) ∧
    ∀ settings : MigrationSettings, ∃ selection,
      selectionOf (.ok ms) (.ok rows) settings = .ok selection ∧
      selectionOf (.ok others) (.ok handed) settings = .ok selection ∧
      ∀ {σ τ : Type} [LedgerAccess σ] [LedgerAccess τ] (store : σ) (other : τ),
        settings.republishOnChange = true →
        LedgerAccess.rows store = .ok rows → LedgerAccess.rows other = .ok handed →
        reconcile (.ok ms) store settings = purge store selection settings.outOfOrder ∧
        reconcile (.ok others) other settings = purge other selection settings.outOfOrder := by
  have hasc := strictlyAscending_sortByRank hranks
  have hsorted : rows.Perm (sortByRank rows) := (sortBy_perm _ rows).symm
  constructor
  · intro request
    refine ⟨⟨request, infosOf ms (sortByRank rows) request⟩, fun service => ⟨?_, ?_⟩,
      fun collected hp => InfoService.validateFrom_of_perm hasc request hp⟩
    · exact refresh_eq_ok hkeys hasc hsorted service request
    · rw [refresh_eq_ok (hkeys.of_perm hms) hasc (hrows.trans hsorted) service request,
        infosOf_eq_of_perm hkeys hms]
  · intro settings
    have hselection : selectionOf (.ok ms) (.ok rows) settings
        = .ok (passSelection ms (sortByRank rows) settings) :=
      selectionOf_eq_ok hkeys hasc hsorted settings
    have hother : selectionOf (.ok others) (.ok handed) settings
        = .ok (passSelection ms (sortByRank rows) settings) := by
      rw [selectionOf_eq_ok (hkeys.of_perm hms) hasc (hrows.trans hsorted) settings, passSelection,
        passSelection, infosOf_eq_of_perm hkeys hms]
    refine ⟨_, hselection, hother, fun store other hon hstore hread => ⟨?_, ?_⟩⟩
    · exact reconcile_of_selection hon (by rw [hstore, hselection])
    · exact reconcile_of_selection hon (by rw [hread, hother])

/-- The plain scripts and the plain ledger, once in order and once in the opposite order behind a
guard: either way the pass attempts the same three deletes, and the guard lets it do so. -/
theorem snapshots_ignore_enumeration_order_reversed :
    let guarded : GuardedLedger := { ledger := Plain.history, reversed := true }
    let pass := reconcile (.ok Plain.scripts) Plain.history Plain.settings
    let other := reconcile (.ok Plain.scripts.reverse) guarded Plain.settings
    (∃ s : InfoService,
      InfoService.refresh {} (.ok Plain.scripts) (LedgerAccess.rows Plain.history) {} = (.ok (), s) ∧
      InfoService.refresh {} (.ok Plain.scripts.reverse) (LedgerAccess.rows guarded) {}
        = (.ok (), s)) ∧
      pass.attempted = [Plain.row 4 none "R__view.sql" 29,
        Plain.row 2 (some Plain.one) "V1__table.sql" 9, Plain.row 1 none "R__view.sql" 28] ∧
      other.attempted = pass.attempted := by
  intro guarded pass other
  have hkeys : DistinctKeys Plain.scripts := by decide
  have hranks : DistinctRanks Plain.history.rows := by decide
  have hasc := Ledger.strictlyAscending hranks
  obtain ⟨hsnapshot, hpass⟩ := snapshots_ignore_enumeration_order hkeys
    (List.reverse_perm Plain.scripts) hranks (List.reverse_perm Plain.history.rows)
  obtain ⟨s, hs, -⟩ := hsnapshot {}
  obtain ⟨selection, hselection, -, hpurge⟩ := hpass Plain.settings
  obtain ⟨hfirst, hsecond⟩ := hpurge Plain.history guarded rfl rfl rfl
  have hknown : selection = passSelection Plain.scripts Plain.history.rows Plain.settings :=
    Except.ok.inj (hselection.symm.trans
      (selectionOf_eq_ok hkeys hasc (List.Perm.refl _) Plain.settings))
  have hrows : selection.rows = [Plain.row 4 none "R__view.sql" 29,
      Plain.row 2 (some Plain.one) "V1__table.sql" 9, Plain.row 1 none "R__view.sql" 28] := by
    rw [hknown]
    exact (rows_passSelection hasc).trans (by decide)
  have hattempted : pass.attempted = _ ∧ other.attempted = _ :=
    ⟨congrArg Pass.attempted hfirst, congrArg Pass.attempted hsecond⟩
  rw [purge_eq, purge_eq, hrows] at hattempted
  refine ⟨⟨s, hs {}⟩, hattempted.1.trans rfl, hattempted.2.trans (hattempted.1.trans rfl).symm⟩

end MigrationLedger
