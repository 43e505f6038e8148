import MigrationLedger.Proofs.Selection

/-!
# Snapshots are complete

Whatever is discovered and whatever the ledger hands out, ranks shared by several rows
included, a snapshot is refused for one reason only: two migrations have one key.
Otherwise it neither loses nor invents anything.  Every row stands on the ledger side of
one info, every migration whose key is not live stands alone in one info, and there are
no other infos.

## Main definitions

* `SharesKey`, `HasDuplicate` — two migrations have one key; some two of a list do.
* `IsSnapshotOf` — what the infos of a snapshot are, given the migrations and the rows.

## Main results

* `refresh_of_distinctKeys`, `refresh_of_hasDuplicate` — what becomes of a snapshot.
* `isSnapshotOf_infosOf` — **the infos account for every row and every migration.**
* `refresh_isSnapshotOf` — a snapshot is refused when a key is shared, and complete otherwise.
-/

namespace MigrationLedger

/-! ### Shared keys -/

/-- Both migrations have equal versions, or both none, and the same script. -/
def SharesKey (m n : ResolvedMigration) : Prop :=
  compare m.version n.version = .eq ∧ m.script = n.script

/-- Two of the migrations share a key. -/
def HasDuplicate (ms : List ResolvedMigration) : Prop :=
  ∃ m n, [m, n].Sublist ms ∧ SharesKey m n

theorem same_key_iff_sharesKey {m n : ResolvedMigration} :
    m.key.same n.key = true ↔ SharesKey m n :=
  Key.same_eq_true_iff.trans Key.compare_eq_iff

theorem hasDuplicate_iff {ms : List ResolvedMigration} : HasDuplicate ms ↔ ¬ DistinctKeys ms := by
  rw [DistinctKeys, List.pairwise_iff_forall_sublist]
  constructor
  · rintro ⟨m, n, hsub, hshared⟩ hdistinct
    exact Bool.false_ne_true ((hdistinct hsub).symm.trans (same_key_iff_sharesKey.2 hshared))
  · intro hnot
    by_contra hnone
    refine hnot fun {m n} hsub => Bool.eq_false_iff.2 fun hmn => hnone ?_
    exact ⟨m, n, hsub, same_key_iff_sharesKey.1 hmn⟩

theorem mem_of_firstDuplicate? {seen : List Key} {ms : List ResolvedMigration}
    {n : ResolvedMigration} (h : firstDuplicate? seen ms = some n) : n ∈ ms := by
  induction ms generalizing seen with
  | nil => simp [firstDuplicate?] at h
  | cons m ms ih =>
    unfold firstDuplicate? at h
    split at h
    · obtain rfl : m = n := Option.some.inj h
      exact List.mem_cons_self
    · exact List.mem_cons_of_mem _ (ih h)

/-- The first duplicate shares a key that was seen before, or that of a migration before it. -/
theorem sharesKey_of_firstDuplicate? {seen : List Key} {ms : List ResolvedMigration}
    {n : ResolvedMigration} (h : firstDuplicate? seen ms = some n) :
    (∃ k ∈ seen, k.same n.key = true) ∨ ∃ m, [m, n].Sublist ms ∧ SharesKey m n := by
  induction ms generalizing seen with
  | nil => simp [firstDuplicate?] at h
  | cons m ms ih =>
    unfold firstDuplicate? at h
    split at h
    · next hseen =>
      obtain rfl : m = n := Option.some.inj h
      exact .inl (List.any_eq_true.1 hseen)
    · have hn : n ∈ ms := mem_of_firstDuplicate? h
      rcases ih h with ⟨k, hk, hkn⟩ | ⟨m', hsub, hshared⟩
      · rcases List.mem_cons.1 hk with rfl | hk
        · exact .inr ⟨m, (List.singleton_sublist.2 hn).cons_cons m, same_key_iff_sharesKey.1 hkn⟩
        · exact .inl ⟨k, hk, hkn⟩
      · exact .inr ⟨m', hsub.cons m, hshared⟩

/-! ### Making a snapshot -/

/-- A snapshot of migrations with distinct keys succeeds, whatever the ledger hands out. -/
theorem refresh_of_distinctKeys {ms : List ResolvedMigration} (hkeys : DistinctKeys ms)
    (service : InfoService) (handed : List AppliedMigration) (request : Request) :
    service.refresh (.ok ms) (.ok handed) request
      = (.ok (), ⟨request, infosOf ms (sortByRank handed) request⟩) := by
  simp [InfoService.refresh, pair_eq_ok hkeys]

/-- The error of a snapshot that is refused: it names a migration. -/
def duplicateError (m : ResolvedMigration) : Error :=
  .duplicateMigration m.script (m.version.elim "<none>" Version.text)

/-- A snapshot of migrations that share a key is refused.  The error names the later one of two
that share a key, and the service has taken over the request by then. -/
theorem refresh_of_hasDuplicate {ms : List ResolvedMigration} (h : HasDuplicate ms)
    (service : InfoService) (handed : List AppliedMigration) (request : Request) :
    ∃ m n, [m, n].Sublist ms ∧ SharesKey m n ∧
      service.refresh (.ok ms) (.ok handed) request
        = (.error (duplicateError n), { service with request := request }) := by
  cases hn : firstDuplicate? [] ms with
  | none => exact absurd (firstDuplicate?_eq_none_iff.1 hn).1 (hasDuplicate_iff.1 h)
  | some n =>
    rcases sharesKey_of_firstDuplicate? hn with ⟨k, hk, -⟩ | ⟨m, hsub, hshared⟩
    · exact absurd hk List.not_mem_nil
    · exact ⟨m, n, hsub, hshared, by simp [InfoService.refresh, pair, hn, duplicateError]⟩

/-! ### What the infos account for -/

/-- The infos account for the migrations and for the rows as they were handed out. -/
structure IsSnapshotOf (ms : List ResolvedMigration) (handed : List AppliedMigration)
    (infos : List MigrationInfo) : Prop where
  /-- Every row is the ledger side of one info, and nothing else is. -/
  rows : (infos.filterMap MigrationInfo.applied).Perm handed
  /-- Without a ledger side stand the migrations of whose key there is no row, or whose newest row
  is a tombstone: each of them in one info, and nothing else. -/
  unapplied : ((infos.filter fun i => i.applied.isNone).map MigrationInfo.resolved).Perm
    ((ms.filter fun m =>
      (newestRow? (sortByRank handed) m.key).all AppliedMigration.isTombstone).map some)
  /-- A row stands beside the migration of its key, if there is one. -/
  resolved : ∀ i ∈ infos, ∀ r, i.applied = some r →
    ∀ m, i.resolved = some m ↔ m ∈ ms ∧ m.key.same r.key = true
  /-- An info is matched when it has both sides. -/
  isMatched : ∀ i ∈ infos, i.isMatched = (i.resolved.isSome && i.applied.isSome)
  /-- The state is one of a row when there is a row. -/
  isApplied : ∀ i ∈ infos, i.state.isApplied = i.applied.isSome
  /-- The infos are listed in their order. -/
  sorted : infos.Pairwise fun i j => (MigrationInfo.compareRank i j).isLE = true

section

variable {ms : List ResolvedMigration} {rows : List AppliedMigration}

@[simp] theorem applied_appliedInfo (r : AppliedMigration) :
    (appliedInfo ms rows r).applied = some r := rfl

@[simp] theorem applied_planned (m : ResolvedMigration) (state : MigrationState) :
    (MigrationInfo.planned m state).applied = none := rfl

@[simp] theorem resolved_planned (m : ResolvedMigration) (state : MigrationState) :
    (MigrationInfo.planned m state).resolved = some m := rfl

theorem filterMap_applied_infosOf (ms : List ResolvedMigration) (rows : List AppliedMigration)
    (request : Request) :
    ((infosOf ms rows request).filterMap MigrationInfo.applied).Perm rows := by
  refine ((infosOf_perm ms rows request).filterMap _).trans ?_
  simp [List.filterMap_append, List.filterMap_map, Function.comp_def]

/-- A key is not live when its newest row, if there is one, is a tombstone. -/
theorem not_isLive_eq_all (rows : List AppliedMigration) (k : Key) :
    (!isLive rows k) = (newestRow? rows k).all AppliedMigration.isTombstone := by
  unfold isLive
  cases newestRow? rows k <;> simp

theorem map_resolved_filter_infosOf (ms : List ResolvedMigration) (rows : List AppliedMigration)
    (request : Request) :
    (((infosOf ms rows request).filter fun i => i.applied.isNone).map MigrationInfo.resolved).Perm
      ((ms.filter fun m => (newestRow? rows m.key).all AppliedMigration.isTombstone).map some) := by
  have hunapplied := (unapplied_perm ms rows).map some
  simp only [not_isLive_eq_all] at hunapplied
  refine (((infosOf_perm ms rows request).filter _).map _).trans ?_
  simpa [List.filter_append, List.filter_map, Function.comp_def] using hunapplied

theorem isApplied_appliedState (ms : List ResolvedMigration) (r : AppliedMigration) :
    (appliedState ms rows r).isApplied = true := by
  unfold appliedState undiscoveredState
  repeat' split
  all_goals rfl

theorem isApplied_plannedState (request : Request) (newest : Option Version)
    (m : ResolvedMigration) : (plannedState request newest m).isApplied = false := by
  unfold plannedState
  repeat' split
  all_goals rfl

/-- What is listed in a state of applied migrations is a row. -/
theorem exists_appliedInfo_of_isApplied {request : Request} {i : MigrationInfo}
    (hi : i ∈ infosOf ms rows request) (happlied : i.state.isApplied = true) :
    ∃ r ∈ rows, i = appliedInfo ms rows r := by
  rcases mem_infosOf.1 hi with ⟨r, hr, rfl⟩ | ⟨m, -, -, rfl⟩
  · exact ⟨r, hr, rfl⟩
  · have hplanned := isApplied_plannedState request (newestApplied? rows) m
    exact absurd (hplanned.symm.trans happlied) Bool.false_ne_true

/-- What is listed in another state is a migration without a live row. -/
theorem exists_planned_of_isApplied_eq_false {request : Request} {i : MigrationInfo}
    (hi : i ∈ infosOf ms rows request) (hplanned : i.state.isApplied = false) :
    ∃ m ∈ ms, isLive rows m.key = false ∧
      i = MigrationInfo.planned m (plannedState request (newestApplied? rows) m) := by
  rcases mem_infosOf.1 hi with ⟨r, -, rfl⟩ | ⟨m, hm, hlive, rfl⟩
  · exact absurd (hplanned.symm.trans (isApplied_appliedState ms r)) Bool.false_ne_true
  · exact ⟨m, hm, hlive, rfl⟩

theorem isMatched_appliedInfo (r : AppliedMigration) :
    (appliedInfo ms rows r).isMatched = (migrationOf? ms r.key).isSome := by
  cases hm : migrationOf? ms r.key with
  | none => simp [appliedInfo, hm, MigrationInfo.isMatched]
  | some m => simp [appliedInfo, hm, script_of_migrationOf? hm]

/-- **The infos of a snapshot account for every row and every migration.** -/
theorem isSnapshotOf_infosOf (hkeys : DistinctKeys ms) (handed : List AppliedMigration)
    (request : Request) : IsSnapshotOf ms handed (infosOf ms (sortByRank handed) request) where
  rows := (filterMap_applied_infosOf ms _ request).trans (sortBy_perm _ handed)
  unapplied := map_resolved_filter_infosOf ms _ request
  resolved := by
    intro i hi r hr m
    rcases mem_infosOf.1 hi with ⟨q, -, rfl⟩ | ⟨n, -, -, rfl⟩
    · obtain rfl : q = r := Option.some.inj hr
      exact migrationOf?_eq_some_iff hkeys
    · exact nomatch hr
  isMatched := by
    intro i hi
    rcases mem_infosOf.1 hi with ⟨r, -, rfl⟩ | ⟨m, -, -, rfl⟩
    · rw [isMatched_appliedInfo, applied_appliedInfo, Option.isSome_some, Bool.and_true]
      rfl
    · simp
  isApplied := by
    intro i hi
    rcases mem_infosOf.1 hi with ⟨r, -, rfl⟩ | ⟨m, -, -, rfl⟩
    · exact isApplied_appliedState ms r
    · exact isApplied_plannedState request _ m
  sorted := pairwise_sortBy _ _

end

namespace Plain

/-- A view, and a version. -/
def viewAndTable : List ResolvedMigration :=
  [migration none "R__view.sql" 30, migration (some one) "V1__table.sql" 10]

/-- Both ran, and the view was removed under the rank it had; the second version is gone. -/
def removedView : List AppliedMigration :=
  [row 1 (some one) "V1__table.sql" 10, row 2 none "R__view.sql" 30,
    tombstone 2 none "R__view.sql", row 3 (some two) "V2__gone.sql" 20]

end Plain

/-- **A snapshot is refused exactly when two migrations share a key**, and accounts for every row
and every migration otherwise. -/
theorem refresh_isSnapshotOf (service : InfoService) (ms : List ResolvedMigration)
    (handed : List AppliedMigration) (request : Request) :
    ((∃ script version, (service.refresh (.ok ms) (.ok handed) request).1
        = .error (.duplicateMigration script version)) ↔ HasDuplicate ms) ∧
      (¬ HasDuplicate ms → ∃ infos,
        service.refresh (.ok ms) (.ok handed) request = (.ok (), ⟨request, infos⟩) ∧
          IsSnapshotOf ms handed infos) := by
  constructor
  · constructor
    · rintro ⟨script, version, herror⟩
      rw [hasDuplicate_iff]
      intro hkeys
      rw [refresh_of_distinctKeys hkeys] at herror
      exact nomatch herror
    · intro hdup
      obtain ⟨m, n, -, -, hrefresh⟩ := refresh_of_hasDuplicate hdup service handed request
      exact ⟨_, _, by rw [hrefresh]; rfl⟩
  · intro hnone
    have hkeys : DistinctKeys ms := by
      by_contra hshared
      exact hnone (hasDuplicate_iff.2 hshared)
    exact ⟨_, refresh_of_distinctKeys hkeys service handed request,
      isSnapshotOf_infosOf hkeys handed request⟩

/-- Of two rows of one rank the later one is the newest, so that the plain view, removed under the
rank it had, is the one migration that stands alone. -/
theorem refresh_isSnapshotOf_removedView :
    ∃ infos, InfoService.refresh {} (.ok Plain.viewAndTable) (.ok Plain.removedView) {}
        = (.ok (), ⟨{}, infos⟩) ∧
      IsSnapshotOf Plain.viewAndTable Plain.removedView infos ∧
      (infos.filter fun i => i.applied.isNone).map MigrationInfo.resolved
        = [some (Plain.migration none "R__view.sql" 30)] := by
  have hnone : ¬ HasDuplicate Plain.viewAndTable := by
    rw [hasDuplicate_iff, not_not]
    decide
  have hsorted : sortByRank Plain.removedView = Plain.removedView := sortBy_eq_self (by decide)
  obtain ⟨infos, hrefresh, hsnapshot⟩ :=
    (refresh_isSnapshotOf {} Plain.viewAndTable Plain.removedView {}).2 hnone
  refine ⟨infos, hrefresh, hsnapshot, List.perm_singleton.1 (hsnapshot.unapplied.trans ?_)⟩
  rw [hsorted]
  exact List.Perm.of_eq (by decide)

end MigrationLedger
