import MigrationLedger.Proofs.Cycle

/-!
# Running a plan step by step

What waits to run is a plan: its migrations stand in the strict order of their keys.  A plan
may be run as a whole, or the first of it may be run, a new snapshot be made, and the first
of the new plan be run, and so on.  Under a target that does not move with the ledger this
makes no difference.  The row of the first migration takes that migration off the plan and
is no newer than any that is left, so it overtakes none of them; what the request held back
before stays held back.

## Main definitions

* `MigrationInfo.RunsBefore` — both infos list a migration, and the first one has the lesser key.
* `runSteps` — runs the first of the plan, with a new snapshot for every step.

## Main results

* `pairwise_pending_infosOf` — a plan is in the strict order of its keys.
* `plannedState_append` — **rows of lesser versions leave the state of a migration alone.**
* `pending_infosOf_append_first` — **the row of the first migration leaves the rest of the plan.**
* `runSteps_eq_appendRun` — **running a plan step by step is running it as a whole.**
* `plan_runs_step_by_step` — the two of them, for snapshots of a ledger.
-/

namespace MigrationLedger

/-- Both infos list a migration, and that of the first one has the lesser key. -/
def MigrationInfo.RunsBefore (i j : MigrationInfo) : Prop :=
  ∃ m n, i.resolved = some m ∧ j.resolved = some n ∧ compare m.key n.key = .lt

theorem MigrationInfo.RunsBefore.asymm {i j : MigrationInfo} (h : i.RunsBefore j) :
    ¬ j.RunsBefore i := by
  rintro ⟨n, m, hn, hm, hnm⟩
  obtain ⟨m', n', hm', hn', hmn⟩ := h
  obtain rfl : m = m' := Option.some.inj (hm.symm.trans hm')
  obtain rfl : n = n' := Option.some.inj (hn.symm.trans hn')
  rw [← Std.OrientedCmp.gt_iff_lt, hmn] at hnm
  exact nomatch hnm

section

variable {ms : List ResolvedMigration} {rows : List AppliedMigration} {request : Request}

/-! ### The order of a plan -/

/-- **A plan is in the strict order of its keys.** -/
theorem pairwise_pending_infosOf (hkeys : DistinctKeys ms) :
    (InfoService.mk request (infosOf ms rows request)).pending.Pairwise
      MigrationInfo.RunsBefore := by
  rw [pending_infosOf hkeys]
  exact List.pairwise_map.2 (((pairwise_unapplied hkeys rows).filter _).imp fun {m n} hlt =>
    ⟨m, n, rfl, rfl, hlt⟩)

/-! ### What a row leaves of a plan -/

variable {more : List AppliedMigration} {m : ResolvedMigration}

/-- Rows that are no newer than a version neither bring nor take a greater one. -/
theorem any_newestApplied?_append (hasc : StrictlyAscending (rows ++ more))
    (hmore : ∀ r ∈ more, r.isTombstone = false) {v : Version}
    (hle : ∀ q ∈ more, ∀ u, q.version = some u → (compare u v).isLE = true) :
    ((newestApplied? (rows ++ more)).any fun newest => compare v newest == .lt)
      = (newestApplied? rows).any fun newest => compare v newest == .lt := by
  have hrows : StrictlyAscending rows := hasc.sublist (List.sublist_append_left _ _)
  rw [Bool.eq_iff_iff, any_newestApplied?_iff hasc, any_newestApplied?_iff hrows]
  constructor
  · rintro ⟨w, hw, hvw⟩
    rcases isAppliedVersion_of_append hasc hmore hw with hold | ⟨q, hq, u, hu, huw⟩
    · exact ⟨w, hold, hvw⟩
    · have hwu : compare w u = .eq := Std.OrientedCmp.eq_comm.1 huw
      have hvu : compare v u = .lt := Std.TransCmp.lt_of_lt_of_eq hvw hwu
      have huv := hle q hq u hu
      rw [Std.OrientedCmp.gt_iff_lt.2 hvu] at huv
      exact nomatch huv
  · rintro ⟨w, hw, hvw⟩
    exact ⟨w, hw.append hasc hmore, hvw⟩

/-- **Rows of lesser versions leave the state of a migration alone**, unless the target follows
the ledger. -/
theorem plannedState_append (hasc : StrictlyAscending (rows ++ more))
    (hmore : ∀ r ∈ more, r.isTombstone = false) (htarget : request.target ≠ .current)
    (hle : ∀ q ∈ more, (compare q.version m.version).isLE = true) :
    plannedState request (newestApplied? (rows ++ more)) m
      = plannedState request (newestApplied? rows) m := by
  have hlimit : request.target.limit (newestApplied? (rows ++ more))
      = request.target.limit (newestApplied? rows) := by
    cases hrequest : request.target with
    | latest => rfl
    | current => exact absurd hrequest htarget
    | version w => rfl
  unfold plannedState
  rw [hlimit]
  cases hv : m.version with
  | none => rfl
  | some v =>
    have hnewer := any_newestApplied?_append hasc hmore fun q hq u hu => by
      have hqv := hle q hq
      rw [hu, hv] at hqv
      exact hqv
    simp only [hnewer]

end

/-! ### The row of the first migration -/

theorem Key.isLE_version_of_lt {a b : Key} (h : compare a b = .lt) :
    (compare a.version b.version).isLE = true := by
  rw [Key.compare_def, Ordering.then_eq_lt] at h
  rcases h with hlt | ⟨heq, -⟩
  · rw [hlt]
    rfl
  · rw [heq]
    rfl

section

variable {ms : List ResolvedMigration} {rows : List AppliedMigration} {row : AppliedMigration}
  {request : Request} {m n : ResolvedMigration}

theorem isLive_append_of_lt (hkind : row.isTombstone = false) {k : Key}
    (hlt : compare row.key k = .lt) : isLive (rows ++ [row]) k = isLive rows k := by
  have hother : ¬ ∃ q ∈ [row], q.key.same k = true := by
    rintro ⟨q, hq, hsame⟩
    obtain rfl : q = row := by simpa using hq
    rw [Key.same_eq_true_iff, hlt] at hsame
    exact nomatch hsame
  rw [Bool.eq_iff_iff, isLive_append (by simpa using hkind) k, or_iff_left hother]

theorem plannedState_append_of_lt (hasc : StrictlyAscending (rows ++ [row]))
    (hkind : row.isTombstone = false) (htarget : request.target ≠ .current)
    (hlt : compare row.key n.key = .lt) :
    plannedState request (newestApplied? (rows ++ [row])) n
      = plannedState request (newestApplied? rows) n := by
  refine plannedState_append hasc (by simpa using hkind) htarget fun q hq => ?_
  obtain rfl : q = row := by simpa using hq
  exact Key.isLE_version_of_lt hlt

/-- What a request lets run after a row of a lesser key, it let run before, and the reverse. -/
theorem allows_append_iff_of_lt (hasc : StrictlyAscending (rows ++ [row]))
    (hkind : row.isTombstone = false) (htarget : request.target ≠ .current)
    (hlt : compare row.key n.key = .lt) :
    request.Allows (rows ++ [row]) n ↔ request.Allows rows n := by
  have hrows : StrictlyAscending rows := hasc.sublist (List.sublist_append_left _ _)
  rw [← isPending_plannedState_iff_allows hasc, ← isPending_plannedState_iff_allows hrows,
    plannedState_append_of_lt hasc hkind htarget hlt]

/-- What waits after the row of a migration that waited has another key, and waited as well. -/
theorem waited_of_append (hasc : StrictlyAscending (rows ++ [row]))
    (hkind : row.isTombstone = false) (hkey : row.key = m.key) (hallowed : request.Allows rows m)
    (hdead : isLive (rows ++ [row]) n.key = false) (hallows : request.Allows (rows ++ [row]) n) :
    n ≠ m ∧ isLive rows n.key = false ∧ request.Allows rows n := by
  have hmore : ∀ r ∈ [row], r.isTombstone = false := by simpa using hkind
  have hfresh : ¬ (isLive rows n.key = true ∨ ∃ q ∈ [row], q.key.same n.key = true) := by
    rw [← isLive_append hmore, hdead]
    exact Bool.false_ne_true
  refine ⟨?_, Bool.eq_false_iff.2 fun hlive => hfresh (.inl hlive), ?_⟩
  · rintro rfl
    exact hfresh (.inr ⟨row, List.mem_cons_self, hkey ▸ Key.same_self _⟩)
  · refine hallows.of_append hasc hmore fun q hq => ?_
    obtain rfl : q = row := by simpa using hq
    exact ⟨m, congrArg Key.version hkey, hallowed⟩

/-- **The row of the first migration leaves the rest of the plan**, each in the state it had. -/
theorem pending_infosOf_append_first (hkeys : DistinctKeys ms)
    (hasc : StrictlyAscending (rows ++ [row])) (htarget : request.target ≠ .current)
    {first : MigrationInfo} {rest : List MigrationInfo}
    (hplan : (InfoService.mk request (infosOf ms rows request)).pending = first :: rest)
    (hfirst : first.resolved = some m) (hkey : row.key = m.key)
    (hkind : row.isTombstone = false) :
    (InfoService.mk request (infosOf ms (rows ++ [row]) request)).pending = rest := by
  have hrows : StrictlyAscending rows := hasc.sublist (List.sublist_append_left _ _)
  have hallowed : request.Allows rows m := by
    have hmem : m ∈ (first :: rest).filterMap MigrationInfo.resolved :=
      List.mem_filterMap.2 ⟨first, List.mem_cons_self, hfirst⟩
    rw [← hplan, mem_resolved_pending_infosOf hrows] at hmem
    exact hmem.2.2
  have hordered : (InfoService.mk request (infosOf ms rows request)).pending.Pairwise
      MigrationInfo.RunsBefore := pairwise_pending_infosOf hkeys
  rw [hplan, List.pairwise_cons] at hordered
  obtain ⟨hbefore, hrest⟩ := hordered
  have hlater : ∀ n state, MigrationInfo.planned n state ∈ rest →
      compare row.key n.key = .lt := by
    intro n state hn
    obtain ⟨m', n', hm', hn', hlt⟩ := hbefore _ hn
    obtain rfl : m = m' := Option.some.inj (hfirst.symm.trans hm')
    obtain rfl : n = n' := Option.some.inj hn'
    exact hkey ▸ hlt
  -- both lists are in the strict order of their keys, so it is enough that they have the same infos
  refine eq_of_pairwise_of_mem_iff (fun _ _ => MigrationInfo.RunsBefore.asymm)
    (pairwise_pending_infosOf hkeys) hrest fun i => ?_
  constructor
  · intro hi
    obtain ⟨n, hn, hdead, hallows, rfl⟩ := (mem_pending_infosOf hasc).1 hi
    obtain ⟨hne, hwaited⟩ := waited_of_append hasc hkind hkey hallowed hdead hallows
    have hmem := (mem_pending_infosOf hrows).2 ⟨n, hn, hwaited.1, hwaited.2, rfl⟩
    rw [hplan, List.mem_cons] at hmem
    rcases hmem with hhead | hmem
    · rw [← hhead] at hfirst
      exact absurd (Option.some.inj hfirst) hne
    · rw [plannedState_append_of_lt hasc hkind htarget (hlater n _ hmem)]
      exact hmem
  · intro hi
    have hmem : i ∈ (InfoService.mk request (infosOf ms rows request)).pending := by
      rw [hplan]
      exact List.mem_cons_of_mem _ hi
    obtain ⟨n, hn, hdead, hallows, rfl⟩ := (mem_pending_infosOf hrows).1 hmem
    have hlt := hlater n _ hi
    refine (mem_pending_infosOf hasc).2 ⟨n, hn, ?_, ?_, ?_⟩
    · exact (isLive_append_of_lt hkind hlt).trans hdead
    · exact (allows_append_iff_of_lt hasc hkind htarget hlt).2 hallows
    · rw [plannedState_append_of_lt hasc hkind htarget hlt]

end

/-! ### Running step by step -/

/-- Runs the first of what waits, `n` times, with a new snapshot for each: the rows appended, and
the ledger afterwards. -/
def runSteps (runner : ResolvedMigration → Runner) (ms : List ResolvedMigration)
    (request : Request) : Nat → Ledger → Except Error (List AppliedMigration) × Ledger
  | 0, l => (.ok [], l)
  | n + 1, l =>
    match InfoService.load (.ok ms) (LedgerAccess.rows l) request with
    | .error e => (.error e, l)
    | .ok service =>
      match service.pending.filterMap MigrationInfo.resolved with
      | [] => (.ok [], l)
      | m :: _ =>
        let row := (runner m).rowOf m l.nextRank
        match l.append row with
        | .error e => (.error e, l)
        | .ok next =>
          let (rows, after) := runSteps runner ms request n next
          (rows.map (row :: ·), after)

section

variable {ms : List ResolvedMigration} {request : Request} {l : Ledger} {n : Nat}

/-- **A step of a plan**: the row of the first migration is appended behind all others, and leaves
the rest of the plan. -/
theorem exists_append_first (hkeys : DistinctKeys ms)
    (hkinds : ∀ m ∈ ms, m.kind.isTombstone = false) (hasc : StrictlyAscending l.rows)
    (hroom : l.HasRoom (n + 1)) (htarget : request.target ≠ .current)
    (runner : ResolvedMigration → Runner) {first : MigrationInfo} {rest : List MigrationInfo}
    (hplan : (InfoService.mk request (infosOf ms l.rows request)).pending = first :: rest) :
    ∃ m next, first.resolved = some m ∧ l.append ((runner m).rowOf m l.nextRank) = .ok next ∧
      next.rows = l.rows ++ [(runner m).rowOf m l.nextRank] ∧ StrictlyAscending next.rows ∧
      next.HasRoom n ∧
      (InfoService.mk request (infosOf ms next.rows request)).pending = rest := by
  have hmem : first ∈ (InfoService.mk request (infosOf ms l.rows request)).pending := by
    rw [hplan]
    exact List.mem_cons_self
  obtain ⟨m, hm, -, -, rfl⟩ := (mem_pending_infosOf hasc).1 hmem
  obtain ⟨next, happend, hnext, hleft⟩ := Ledger.append_of_hasRoom hroom
    (show ((runner m).rowOf m l.nextRank).installedRank = l.nextRank from rfl)
  have hascNext : StrictlyAscending (l.rows ++ [(runner m).rowOf m l.nextRank]) :=
    Ledger.strictlyAscending_append hroom hasc rfl
  refine ⟨m, next, rfl, happend, hnext, hnext ▸ hascNext, hleft, ?_⟩
  rw [hnext]
  exact pending_infosOf_append_first hkeys hascNext htarget hplan rfl (Runner.key_rowOf _ _ _)
    (hkinds m hm)

/-- **Running a plan step by step is running it as a whole.** -/
theorem runSteps_eq_appendRun (hkeys : DistinctKeys ms)
    (hkinds : ∀ m ∈ ms, m.kind.isTombstone = false) (hasc : StrictlyAscending l.rows)
    (hroom : l.HasRoom n) (htarget : request.target ≠ .current)
    (runner : ResolvedMigration → Runner) :
    runSteps runner ms request n l
      = appendRun runner l (((InfoService.mk request (infosOf ms l.rows request)).pending.filterMap
          MigrationInfo.resolved).take n) := by
  induction n generalizing l with
  | zero => rfl
  | succ n ih =>
    have hload : InfoService.load (.ok ms) (LedgerAccess.rows l) request
        = .ok ⟨request, infosOf ms l.rows request⟩ :=
      load_eq_ok hkeys hasc (List.Perm.refl _) request
    rw [runSteps, hload]
    cases hplan : (InfoService.mk request (infosOf ms l.rows request)).pending with
    | nil => simp [hplan, appendRun]
    | cons first rest =>
      obtain ⟨m, next, hfirst, happend, -, hascNext, hleft, hrest⟩ :=
        exists_append_first hkeys hkinds hasc hroom htarget runner hplan
      have happendRun : LedgerAccess.append l ((runner m).rowOf m (LedgerAccess.nextRank l))
          = .ok next := happend
      simp only [hplan, List.filterMap_cons, hfirst, happend, List.take_succ_cons, appendRun,
        happendRun, ih hascNext hleft, hrest]
      rfl

end

namespace Plain

/-- Two scripts of one version. -/
def twins : List ResolvedMigration :=
  [migration (some one) "V1__index.sql" 10, migration (some one) "V1__table.sql" 20]

/-- One of the two scripts ran, and was removed. -/
def revoked : Ledger where
  rows := [row 1 (some one) "V1__table.sql" 10, tombstone 2 (some one) "V1__table.sql"]
  ascending := by decide

end Plain

/-- **A plan may be run step by step.**  Under a target that does not follow the ledger a plan is
in the strict order of its keys; once the first of it has its row, whether or not it succeeded,
the plan of the next snapshot is the rest.  So any number of steps is the run of as many. -/
theorem plan_runs_step_by_step {ms : List ResolvedMigration} {l : Ledger} {request : Request}
    (hkeys : DistinctKeys ms) (hkinds : ∀ m ∈ ms, m.kind.isTombstone = false)
    (hranks : DistinctRanks l.rows) (hroom : l.HasRoom 1) (htarget : request.target ≠ .current)
    (runner : ResolvedMigration → Runner) :
    ∃ infos,
      (∀ service : InfoService, service.refresh (.ok ms) (LedgerAccess.rows l) request
        = (.ok (), ⟨request, infos⟩)) ∧
      (InfoService.mk request infos).pending.Pairwise MigrationInfo.RunsBefore ∧
      (∀ first rest, (InfoService.mk request infos).pending = first :: rest →
        ∃ m next after, first.resolved = some m ∧
          l.append ((runner m).rowOf m l.nextRank) = .ok next ∧
          (∀ service : InfoService, service.refresh (.ok ms) (LedgerAccess.rows next) request
            = (.ok (), ⟨request, after⟩)) ∧
          (InfoService.mk request after).pending = rest) ∧
      ∀ n, l.HasRoom n → runSteps runner ms request n l
        = appendRun runner l
          (((InfoService.mk request infos).pending.filterMap MigrationInfo.resolved).take n) := by
  have hasc := Ledger.strictlyAscending hranks
  refine ⟨infosOf ms l.rows request,
    fun service => refresh_eq_ok hkeys hasc (List.Perm.refl _) service request,
    pairwise_pending_infosOf hkeys, fun first rest hplan => ?_, fun n hn => ?_⟩
  · obtain ⟨m, next, hfirst, happend, -, hascNext, -, hrest⟩ :=
      exists_append_first hkeys hkinds hasc hroom htarget runner hplan
    exact ⟨m, next, infosOf ms next.rows request, hfirst, happend,
      fun service => refresh_eq_ok hkeys hascNext (List.Perm.refl _) service request, hrest⟩
  · exact runSteps_eq_appendRun hkeys hkinds hasc hn htarget runner

/-- In the plain revoked ledger both scripts of the version wait, and the second one still does when
the first one has run. -/
theorem plan_runs_step_by_step_revoked :
    let first := Plain.migration (some Plain.one) "V1__index.sql" 10
    let second := Plain.migration (some Plain.one) "V1__table.sql" 20
    ∃ infos next after,
      InfoService.refresh {} (.ok Plain.twins) (LedgerAccess.rows Plain.revoked) {}
        = (.ok (), ⟨{}, infos⟩) ∧
      (InfoService.mk {} infos).pending = [.planned first .pending, .planned second .pending] ∧
      Plain.revoked.append (.ofResolved first 3 "" Plain.moment 0) = .ok next ∧
      InfoService.refresh {} (.ok Plain.twins) (LedgerAccess.rows next) {}
        = (.ok (), ⟨{}, after⟩) ∧
      (InfoService.mk {} after).pending = [.planned second .pending] := by
  intro first second
  have hkeys : DistinctKeys Plain.twins := by decide
  have hranks : DistinctRanks Plain.revoked.rows := by decide
  obtain ⟨infos, hrefresh, -, hstep, -⟩ := plan_runs_step_by_step hkeys (by decide) hranks
    (by decide) (show ({} : Request).target ≠ .current by decide) fun _ => Plain.runner
  obtain rfl : infosOf Plain.twins Plain.revoked.rows {} = infos := by
    simpa using (refresh_eq_ok hkeys (Ledger.strictlyAscending hranks) (List.Perm.refl _) {}
      {}).symm.trans (hrefresh {})
  have hplan : (InfoService.mk {} (infosOf Plain.twins Plain.revoked.rows {})).pending
      = [.planned first .pending, .planned second .pending] := by
    have hsorted : unapplied Plain.twins Plain.revoked.rows = [first, second] := by
      rw [unapplied, sortBy_eq_self (by decide)]
      decide
    have hlisted : infosOf Plain.twins Plain.revoked.rows {}
        = Plain.revoked.rows.map (appliedInfo Plain.twins Plain.revoked.rows)
          ++ [.planned first .pending, .planned second .pending] := by
      rw [infosOf, hsorted]
      exact sortBy_eq_self (by decide)
    rw [InfoService.pending, hlisted]
    exact sortBy_eq_self (by decide)
  obtain ⟨m, next, after, hm, happend, hnext, hrest⟩ := hstep _ _ hplan
  obtain rfl : first = m := Option.some.inj hm
  exact ⟨_, next, after, hrefresh {}, hplan, happend, hnext {}, hrest⟩

end MigrationLedger
