import MigrationLedger.Proofs.Appending
import MigrationLedger.Proofs.Completeness
import MigrationLedger.Proofs.CurrentTarget

/-!
# Tombstones

A tombstone marks the rows of its key as deleted for as long as it is the newest row of the
key.  So a row that a snapshot lists as deleted stays deleted whatever is appended for other
keys, and when further tombstones are appended for its own.  Another row that becomes the
newest of the key ends this: the key is live again, and with it all its rows that are no
tombstones, those that were removed before among them.  It does not matter whether the new
row is successful.

A row that is deleted is never current.  Where a row with a tombstone above it is current, a
row that is no tombstone stands above the tombstone.

## Main definitions

* `Ledger.appendAll` — appends rows one after the other.
* `IsRemoved` — the row is a tombstone, or the newest row of its key is one.
* `IsRevivedBy` — one of the new rows is the newest of a key, and no tombstone.

## Main results

* `appliedState_eq_deleted_iff` — **a row is listed as deleted exactly when it is removed.**
* `isRemoved_append_iff` — what new rows leave removed.
* `deleted_row_stays_deleted` — **a deleted row stays deleted unless its key is revived.**
* `failed_run_revives_deleted_row` — a run that fails makes a deleted row current.
-/

namespace MigrationLedger

/-! ### Appending several rows -/

namespace Ledger

/-- Appends rows one after the other, unless one is refused. -/
def appendAll (l : Ledger) : List AppliedMigration → Except Error Ledger
  | [] => .ok l
  | row :: rows =>
    match l.append row with
    | .error e => .error e
    | .ok next => next.appendAll rows

variable {l after : Ledger} {row : AppliedMigration} {more : List AppliedMigration}

/-- An accepted row has a rank of its own. -/
theorem distinctRanks_of_append (h : l.append row = .ok after) (hranks : DistinctRanks l.rows) :
    DistinctRanks after.rows := by
  unfold append at h
  split at h
  · exact nomatch h
  · next hfree =>
    obtain rfl : ofRows (l.rows ++ [row]) = after := Except.ok.inj h
    have hperm : (ofRows (l.rows ++ [row])).rows.Perm (row :: l.rows) :=
      (sortBy_perm _ _).trans (List.perm_append_singleton row l.rows)
    refine (hperm.map AppliedMigration.installedRank).nodup_iff.2 (List.nodup_cons.2 ⟨?_, hranks⟩)
    intro htaken
    obtain ⟨r, hr, hrank⟩ := List.mem_map.1 htaken
    exact hfree (hasRank_iff.2 ⟨r, hr, hrank⟩)

/-- What several accepted rows make of a ledger. -/
theorem rows_of_appendAll (h : l.appendAll more = .ok after) (hranks : DistinctRanks l.rows) :
    DistinctRanks after.rows ∧ ∀ r, r ∈ after.rows ↔ r ∈ l.rows ∨ r ∈ more := by
  induction more generalizing l with
  | nil =>
    obtain rfl : l = after := Except.ok.inj h
    simp [hranks]
  | cons row rows ih =>
    rw [appendAll] at h
    cases happend : l.append row with
    | error e =>
      rw [happend] at h
      exact nomatch h
    | ok next =>
      rw [happend] at h
      obtain ⟨hafter, hmem⟩ := ih h (distinctRanks_of_append happend hranks)
      refine ⟨hafter, fun r => ?_⟩
      rw [hmem, mem_of_append happend, List.mem_cons, or_assoc]

end Ledger

/-! ### Removed rows -/

/-- The row is a tombstone, or the newest row of its key is one. -/
def IsRemoved (rows : List AppliedMigration) (r : AppliedMigration) : Prop :=
  r.isTombstone = true ∨ ∃ newest, IsNewestRow rows r.key newest ∧ newest.isTombstone = true

/-- One of the new rows is now the newest row of the key, and no tombstone. -/
def IsRevivedBy (rows more : List AppliedMigration) (k : Key) : Prop :=
  ∃ q ∈ more, IsNewestRow rows k q ∧ q.isTombstone = false

section

variable {ms : List ResolvedMigration} {rows more : List AppliedMigration} {r : AppliedMigration}

/-- The key of a row has a newest row. -/
theorem exists_isNewestRow (h : StrictlyAscending rows) (hr : r ∈ rows) :
    ∃ newest, IsNewestRow rows r.key newest := by
  obtain ⟨newest, hnewest⟩ := exists_newestRow?_eq_some hr
  exact ⟨newest, (newestRow?_eq_some_iff h).1 hnewest⟩

theorem IsNewestRow.eq (h : StrictlyAscending rows) {k : Key} {a b : AppliedMigration}
    (ha : IsNewestRow rows k a) (hb : IsNewestRow rows k b) : a = b :=
  h.eq_of_rank_eq ha.mem hb.mem
    (Int32.le_antisymm (hb.newest a ha.mem ha.same_key) (ha.newest b hb.mem hb.same_key))

theorem isSuperseded_eq_true_iff (h : StrictlyAscending rows) :
    isSuperseded rows r = true ↔ ∃ newest, IsNewestRow rows r.key newest ∧
      newest.isTombstone = true ∧ r.installedRank < newest.installedRank := by
  simp only [isSuperseded, Option.any_eq_true, newestRow?_eq_some_iff h, Bool.and_eq_true,
    beq_iff_eq, Std.compare_eq_lt]

theorem appliedState_eq_deleted :
    appliedState ms rows r = .deleted ↔ (r.isTombstone || isSuperseded rows r) = true := by
  unfold appliedState undiscoveredState
  constructor
  · intro hdeleted
    by_contra hnot
    rw [if_neg hnot] at hdeleted
    revert hdeleted
    repeat' split
    all_goals exact nofun
  · exact fun hremoved => if_pos hremoved

/-- **A row is listed as deleted exactly when it is removed.** -/
theorem appliedState_eq_deleted_iff (h : StrictlyAscending rows) (hr : r ∈ rows) :
    appliedState ms rows r = .deleted ↔ IsRemoved rows r := by
  rw [appliedState_eq_deleted, Bool.or_eq_true, isSuperseded_eq_true_iff h, IsRemoved]
  constructor
  · rintro (htomb | ⟨newest, hnewest, htomb, -⟩)
    · exact .inl htomb
    · exact .inr ⟨newest, hnewest, htomb⟩
  · rintro (htomb | ⟨newest, hnewest, htomb⟩)
    · exact .inl htomb
    · by_cases hrank : r.installedRank = newest.installedRank
      · -- the row is the tombstone itself
        obtain rfl : r = newest := h.eq_of_rank_eq hr hnewest.mem hrank
        exact .inl htomb
      · have hle := hnewest.newest r hr (Key.same_self _)
        exact .inr ⟨newest, hnewest, htomb, Int32.lt_of_le_of_ne hle hrank⟩

/-- The newest row of a key stays the newest when rows are left out. -/
theorem IsNewestRow.of_subset {fewer : List AppliedMigration} {k : Key} {newest : AppliedMigration}
    (h : IsNewestRow rows k newest) (hmem : newest ∈ fewer) (hsub : ∀ q ∈ fewer, q ∈ rows) :
    IsNewestRow fewer k newest :=
  ⟨hmem, h.same_key, fun q hq => h.newest q (hsub q hq)⟩

/-- **What new rows leave removed**: tombstones, and every row whose key they do not revive. -/
theorem isRemoved_append_iff {after : List AppliedMigration} (h : StrictlyAscending rows)
    (hafter : StrictlyAscending after) (hmem : ∀ q, q ∈ after ↔ q ∈ rows ∨ q ∈ more)
    (hr : r ∈ rows) (hremoved : IsRemoved rows r) :
    IsRemoved after r ↔ r.isTombstone = true ∨ ¬ IsRevivedBy after more r.key := by
  constructor
  · rintro (htomb | ⟨newest, hnewest, htomb⟩)
    · exact .inl htomb
    · refine .inr ?_
      rintro ⟨q, -, hq, hplain⟩
      obtain rfl : q = newest := hq.eq hafter hnewest
      exact Bool.false_ne_true (hplain.symm.trans htomb)
  · rintro (htomb | hdead)
    · exact .inl htomb
    · obtain ⟨newest, hnewest⟩ := exists_isNewestRow hafter ((hmem r).2 (.inl hr))
      rcases (hmem newest).1 hnewest.mem with hold | hnew
      · -- the newest row is an old one, and was the newest before
        have hbefore : IsNewestRow rows r.key newest :=
          hnewest.of_subset hold fun q hq => (hmem q).2 (.inl hq)
        rcases hremoved with htomb | ⟨n, hn, htomb⟩
        · exact .inl htomb
        · obtain rfl : n = newest := hn.eq h hbefore
          exact .inr ⟨n, hnewest, htomb⟩
      · refine .inr ⟨newest, hnewest, ?_⟩
        by_contra hplain
        exact hdead ⟨newest, hnew, hnewest, Bool.eq_false_iff.2 hplain⟩

/-! ### Removed rows in a snapshot -/

/-- A snapshot lists a row once. -/
theorem filter_applied_infosOf (h : StrictlyAscending rows) (request : Request) (hr : r ∈ rows) :
    (infosOf ms rows request).filter (fun i => i.applied = some r) = [appliedInfo ms rows r] := by
  have hrow : rows.filter (fun q => q = r) = [r] := by
    refine List.perm_singleton.1 ((List.perm_ext_iff_of_nodup (h.nodup.filter _) (by simp)).2 ?_)
    intro q
    simp only [List.mem_filter, decide_eq_true_eq, List.mem_singleton]
    exact ⟨fun hq => hq.2, fun hq => ⟨hq ▸ hr, hq⟩⟩
  refine List.perm_singleton.1 (((infosOf_perm ms rows request).filter _).trans ?_)
  simp [List.filter_append, List.filter_map, Function.comp_def, hrow]

/-- What a snapshot lists as deleted is a removed row. -/
theorem exists_isRemoved_of_mem_infosOf (h : StrictlyAscending rows) {request : Request}
    {i : MigrationInfo} (hi : i ∈ infosOf ms rows request) (hdeleted : i.state = .deleted) :
    ∃ r ∈ rows, i = appliedInfo ms rows r ∧ IsRemoved rows r := by
  obtain ⟨r, hr, rfl⟩ := exists_appliedInfo_of_isApplied hi (by rw [hdeleted]; rfl)
  exact ⟨r, hr, rfl, (appliedState_eq_deleted_iff h hr).1 hdeleted⟩

/-- What is current is a row that is not removed. -/
theorem exists_not_isRemoved_of_current? (h : StrictlyAscending rows) {request : Request}
    {i : MigrationInfo}
    (hi : (InfoService.mk request (infosOf ms rows request)).current? = some i) :
    ∃ r ∈ rows, i.applied = some r ∧ ¬ IsRemoved rows r := by
  obtain ⟨hmem, hcurrent⟩ := List.mem_filter.1 (mem_of_greatestBy? hi)
  have hsuccess : i.state = .success := by
    rw [Bool.and_eq_true, beq_iff_eq] at hcurrent
    exact hcurrent.1
  obtain ⟨r, hr, rfl⟩ := exists_appliedInfo_of_isApplied hmem (by rw [hsuccess]; rfl)
  refine ⟨r, hr, rfl, fun hremoved => ?_⟩
  have hstate : appliedState ms rows r = .success := hsuccess
  rw [(appliedState_eq_deleted_iff h hr).2 hremoved] at hstate
  exact nomatch hstate

/-- Above a tombstone of the key of a row that is not removed stands a row that is none. -/
theorem exists_above_tombstone (h : StrictlyAscending rows) (hr : r ∈ rows)
    (hkept : ¬ IsRemoved rows r) {t : AppliedMigration} (ht : t ∈ rows)
    (hkey : t.key.same r.key = true) (htomb : t.isTombstone = true) :
    ∃ q ∈ rows, q.key.same r.key = true ∧ q.isTombstone = false ∧
      t.installedRank < q.installedRank := by
  obtain ⟨newest, hnewest⟩ := exists_isNewestRow h hr
  have hplain : newest.isTombstone = false :=
    Bool.eq_false_iff.2 fun hnot => hkept (.inr ⟨newest, hnewest, hnot⟩)
  refine ⟨newest, hnewest.mem, hnewest.same_key, hplain, ?_⟩
  refine Int32.lt_of_le_of_ne (hnewest.newest t ht hkey) fun hrank => ?_
  obtain rfl : t = newest := h.eq_of_rank_eq ht hnewest.mem hrank
  exact Bool.false_ne_true (hplain.symm.trans htomb)

end

namespace Plain

/-- Both versions ran, and the second one was removed. -/
def withdrawn : Ledger where
  rows := [row 1 (some one) "V1__table.sql" 10, row 2 (some two) "V2__index.sql" 20,
    tombstone 3 (some two) "V2__index.sql"]
  ascending := by decide

/-- The row of a run that failed. -/
def failure (rank : Int32) (version : Option Version) (script : String) (checksum : Int32) :
    AppliedMigration :=
  { row rank version script checksum with success := false }

end Plain

/-- **A deleted row stays deleted unless its key is revived.**  Whatever rows are appended, a later
snapshot, for whichever request, lists once every row that a snapshot before lists as deleted, with
the same migration, and again as deleted, unless the row is no tombstone and one of the new rows,
being no tombstone either, is now the newest of its key.  What is current is no tombstone, and
above every tombstone of its key stands a row of the key that is none. -/
theorem deleted_row_stays_deleted {ms : List ResolvedMigration} {l after : Ledger}
    {more : List AppliedMigration} (hkeys : DistinctKeys ms) (hranks : DistinctRanks l.rows)
    (happend : l.appendAll more = .ok after) (request laterRequest : Request) :
    ∃ infos later,
      (∀ service : InfoService, service.refresh (.ok ms) (LedgerAccess.rows l) request
        = (.ok (), ⟨request, infos⟩)) ∧
      (∀ service : InfoService, service.refresh (.ok ms) (LedgerAccess.rows after) laterRequest
        = (.ok (), ⟨laterRequest, later⟩)) ∧
      (∀ i ∈ infos, i.state = .deleted → ∃ r state, i.applied = some r ∧
        later.filter (fun j => j.applied = some r) = [⟨i.resolved, some r, state⟩] ∧
        (state = .deleted ↔ r.isTombstone = true ∨ ¬ IsRevivedBy after.rows more r.key)) ∧
      ∀ i, (InfoService.mk laterRequest later).current? = some i →
        ∃ r ∈ after.rows, i.applied = some r ∧ r.isTombstone = false ∧
          ∀ t ∈ after.rows, t.key.same r.key = true → t.isTombstone = true →
            ∃ q ∈ after.rows, q.key.same r.key = true ∧ q.isTombstone = false ∧
              t.installedRank < q.installedRank := by
  obtain ⟨hranksAfter, hmem⟩ := Ledger.rows_of_appendAll happend hranks
  have hasc := Ledger.strictlyAscending hranks
  have hascAfter := Ledger.strictlyAscending hranksAfter
  refine ⟨infosOf ms l.rows request, infosOf ms after.rows laterRequest,
    fun service => refresh_eq_ok hkeys hasc (List.Perm.refl _) service request,
    fun service => refresh_eq_ok hkeys hascAfter (List.Perm.refl _) service laterRequest,
    fun i hi hdeleted => ?_, fun i hi => ?_⟩
  · obtain ⟨r, hr, rfl, hremoved⟩ := exists_isRemoved_of_mem_infosOf hasc hi hdeleted
    have hrAfter : r ∈ after.rows := (hmem r).2 (.inl hr)
    refine ⟨r, appliedState ms after.rows r, rfl,
      filter_applied_infosOf hascAfter laterRequest hrAfter, ?_⟩
    rw [appliedState_eq_deleted_iff hascAfter hrAfter,
      isRemoved_append_iff hasc hascAfter hmem hr hremoved]
  · obtain ⟨r, hr, happlied, hkept⟩ := exists_not_isRemoved_of_current? hascAfter hi
    have hplain : r.isTombstone = false := Bool.eq_false_iff.2 fun htomb => hkept (.inl htomb)
    exact ⟨r, hr, happlied, hplain,
      fun t ht hkey htomb => exists_above_tombstone hascAfter hr hkept ht hkey htomb⟩

/-- In the plain withdrawn ledger the row of the second version stays deleted when the first one runs
again, without success, and the second one is removed once more. -/
theorem deleted_row_stays_deleted_withdrawn :
    let older := Plain.row 2 (some Plain.two) "V2__index.sql" 20
    let deleted : MigrationInfo :=
      ⟨some (Plain.migration (some Plain.two) "V2__index.sql" 20), some older, .deleted⟩
    ∃ after infos later,
      Plain.withdrawn.appendAll [Plain.failure 4 (some Plain.one) "V1__table.sql" 10,
        Plain.tombstone 5 (some Plain.two) "V2__index.sql"] = .ok after ∧
      InfoService.refresh {} (.ok Plain.versions) (LedgerAccess.rows Plain.withdrawn) {}
        = (.ok (), ⟨{}, infos⟩) ∧ deleted ∈ infos ∧
      InfoService.refresh {} (.ok Plain.versions) (LedgerAccess.rows after) {}
        = (.ok (), ⟨{}, later⟩) ∧
      later.filter (fun j => j.applied = some older) = [deleted] := by
  intro older deleted
  have hkeys : DistinctKeys Plain.versions := by decide
  have hranks : DistinctRanks Plain.withdrawn.rows := by decide
  have hroom : Plain.withdrawn.HasRoom 2 := by decide
  obtain ⟨mid, hmid, hrows, hleft⟩ := Ledger.append_of_hasRoom hroom
    (show (Plain.failure 4 (some Plain.one) "V1__table.sql" 10).installedRank = _ by decide)
  have hrank : (Plain.tombstone 5 (some Plain.two) "V2__index.sql").installedRank
      = mid.nextRank := by
    rw [Ledger.nextRank, Ledger.lastRank?, hrows]
    decide
  obtain ⟨after, hafter, -, -⟩ := Ledger.append_of_hasRoom hleft hrank
  have happend : Plain.withdrawn.appendAll [Plain.failure 4 (some Plain.one) "V1__table.sql" 10,
      Plain.tombstone 5 (some Plain.two) "V2__index.sql"] = .ok after := by
    simp [Ledger.appendAll, hmid, hafter]
  obtain ⟨infos, later, hinfos, hlater, hstays, -⟩ :=
    deleted_row_stays_deleted hkeys hranks happend {} {}
  obtain rfl : infosOf Plain.versions Plain.withdrawn.rows {} = infos := by
    simpa using (refresh_eq_ok hkeys (Ledger.strictlyAscending hranks) (List.Perm.refl _) {}
      {}).symm.trans (hinfos {})
  have hlisted : deleted ∈ infosOf Plain.versions Plain.withdrawn.rows {} :=
    mem_infosOf.2 (.inl ⟨older, by decide, by decide⟩)
  obtain ⟨r, state, hr, honce, hstate⟩ := hstays deleted hlisted rfl
  obtain rfl : older = r := Option.some.inj hr
  obtain rfl : state = .deleted := by
    refine hstate.2 (.inr ?_)
    rintro ⟨q, hq, hnewest, hplain⟩
    rcases List.mem_cons.1 hq with rfl | hq
    · exact absurd hnewest.same_key (by decide)
    · obtain rfl : q = Plain.tombstone 5 (some Plain.two) "V2__index.sql" := by simpa using hq
      exact absurd hplain (by decide)
  exact ⟨after, _, later, happend, hinfos {}, hlisted, hlater {}, honce⟩

/-- **A run that fails makes a deleted row current.**  The second version was removed, and is listed
as deleted.  Its script runs again and fails; from then on the row below the tombstone is listed as
successful, and it is the current one. -/
theorem failed_run_revives_deleted_row :
    let older := Plain.row 2 (some Plain.two) "V2__index.sql" 20
    let stone := Plain.tombstone 3 (some Plain.two) "V2__index.sql"
    let m := Plain.migration (some Plain.two) "V2__index.sql" 20
    DistinctKeys Plain.versions ∧ DistinctRanks Plain.withdrawn.rows ∧
      stone ∈ Plain.withdrawn.rows ∧ stone.key = older.key ∧
      older.installedRank < stone.installedRank ∧
      ∃ after infos later,
        Plain.withdrawn.append (Plain.failure 4 (some Plain.two) "V2__index.sql" 20)
          = .ok after ∧
        InfoService.refresh {} (.ok Plain.versions) (LedgerAccess.rows Plain.withdrawn) {}
          = (.ok (), ⟨{}, infos⟩) ∧
        infos.filter (fun i => i.applied = some older) = [⟨some m, some older, .deleted⟩] ∧
        InfoService.refresh {} (.ok Plain.versions) (LedgerAccess.rows after) {}
          = (.ok (), ⟨{}, later⟩) ∧
        later.filter (fun i => i.applied = some older) = [⟨some m, some older, .success⟩] ∧
        (InfoService.mk {} later).current? = some ⟨some m, some older, .success⟩ := by
  intro older stone m
  have hkeys : DistinctKeys Plain.versions := by decide
  have hranks : DistinctRanks Plain.withdrawn.rows := by decide
  have hasc := Ledger.strictlyAscending hranks
  have hroom : Plain.withdrawn.HasRoom 1 := by decide
  obtain ⟨after, happend, hrows, -⟩ := Ledger.append_of_hasRoom hroom
    (show (Plain.failure 4 (some Plain.two) "V2__index.sql" 20).installedRank = _ by decide)
  have hascAfter : StrictlyAscending after.rows :=
    Ledger.strictlyAscending (Ledger.distinctRanks_of_append happend hranks)
  have hbefore : appliedInfo Plain.versions Plain.withdrawn.rows older
      = ⟨some m, some older, .deleted⟩ := by decide
  have hafter : appliedInfo Plain.versions after.rows older
      = ⟨some m, some older, .success⟩ := by
    rw [hrows]
    decide
  have holder : older ∈ after.rows := by
    rw [hrows]
    decide
  have hcurrent : (InfoService.mk {} (infosOf Plain.versions after.rows {})).current?
      = some ⟨some m, some older, .success⟩ := by
    -- both keys are live, so that rows are all that is listed
    have hlive : ∀ n ∈ Plain.versions, isLive after.rows n.key = true := by
      rw [hrows]
      decide
    have hnone : unapplied Plain.versions after.rows = [] := by
      refine List.eq_nil_iff_forall_not_mem.2 fun n hn => ?_
      obtain ⟨hn, hdead⟩ := mem_unapplied.1 hn
      exact Bool.false_ne_true (hdead.symm.trans (hlive n hn))
    have hlisted : infosOf Plain.versions after.rows {}
        = after.rows.map (appliedInfo Plain.versions after.rows) := by
      rw [infosOf, hnone, List.map_nil, List.append_nil, hrows]
      exact sortBy_eq_self (by decide)
    rw [hlisted, hrows]
    decide
  exact ⟨hkeys, hranks, by decide, rfl, by decide, after, _, _, happend,
    refresh_eq_ok hkeys hasc (List.Perm.refl _) {} {},
    hbefore ▸ filter_applied_infosOf hasc {} (by decide),
    refresh_eq_ok hkeys hascAfter (List.Perm.refl _) {} {},
    hafter ▸ filter_applied_infosOf hascAfter {} holder, hcurrent⟩

end MigrationLedger
