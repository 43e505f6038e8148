import MigrationLedger.Proofs.Refusal

/-!
# Passes and what runs may do

The target, the order, the picks and the patterns of the settings say what a run may do.  They
reach the snapshot that a pass makes, and decide there in which states the migrations without
a live row are listed: not which infos there are, nor in which order they stand.  What a pass
selects are pairs, and a migration without a row is in no pair.  So whatever runs may do, and
whatever the ledger does, a pass attempts the same deletes and ends in the same way.  Only the
audit log is told besides whether the order matters to runs.

## Main definitions

* `MigrationInfo.replanned` — the info as another request plans it.
* `Pass.retold` — the pass with another word on the order of runs in its events.

## Main results

* `infosOf_eq_map_replanned` — **a request decides the states of migrations without a live row,
  and nothing else.**
* `selectionOf_congr` — what a pass selects depends on the one-shot prefix alone.
* `reconcile_eq_retold` — a pass under other settings is the same pass, told differently.
* `pass_ignores_run_configuration` — **what a pass does does not depend on what runs may do.**
-/

namespace MigrationLedger

open LawfulLedger (view)

/-! ### Snapshots for another request -/

namespace MigrationInfo

/-- The info as another request plans it: a migration without a row changes its state, and
everything else stays. -/
def replanned (request : Request) (newestApplied : Option Version) (i : MigrationInfo) :
    MigrationInfo :=
  match i.applied, i.resolved with
  | none, some m => planned m (plannedState request newestApplied m)
  | _, _ => i

variable {request : Request} {newest : Option Version}

@[simp] theorem replanned_planned (m : ResolvedMigration) (state : MigrationState) :
    (planned m state).replanned request newest = planned m (plannedState request newest m) := rfl

@[simp] theorem replanned_appliedInfo (ms : List ResolvedMigration) (rows : List AppliedMigration)
    (r : AppliedMigration) :
    (appliedInfo ms rows r).replanned request newest = appliedInfo ms rows r := rfl

/-- The order of a listing does not look at states. -/
theorem compareRank_replanned (i j : MigrationInfo) :
    compareRank (i.replanned request newest) (j.replanned request newest) = compareRank i j := by
  obtain ⟨_ | m, _ | a, state⟩ := i <;> obtain ⟨_ | n, _ | b, state'⟩ := j <;> rfl

/-- Nor does the pairing. -/
theorem matchedPair?_replanned (i : MigrationInfo) :
    (i.replanned request newest).matchedPair? = i.matchedPair? := by
  obtain ⟨_ | m, _ | a, state⟩ := i <;> rfl

end MigrationInfo

section

variable (ms : List ResolvedMigration) (rows : List AppliedMigration) (request other : Request)

/-- **A request decides the states of migrations without a live row, and nothing else.** -/
theorem infosOf_eq_map_replanned :
    infosOf ms rows other
      = (infosOf ms rows request).map (MigrationInfo.replanned other (newestApplied? rows)) := by
  unfold infosOf
  rw [← sortBy_map MigrationInfo.compareRank_replanned, List.map_append, List.map_map, List.map_map]
  rfl

theorem newestFirst_infosOf_congr :
    newestFirst (infosOf ms rows other) = newestFirst (infosOf ms rows request) := by
  have hpairs : (infosOf ms rows other).filterMap MigrationInfo.matchedPair?
      = (infosOf ms rows request).filterMap MigrationInfo.matchedPair? := by
    rw [infosOf_eq_map_replanned ms rows request other, List.filterMap_map]
    exact List.filterMap_congr fun i _ => MigrationInfo.matchedPair?_replanned i
  rw [newestFirst, newestFirst, hpairs]

theorem selectDrifted_infosOf_congr (oneShotPrefix : Option String) :
    selectDrifted (infosOf ms rows other) oneShotPrefix
      = selectDrifted (infosOf ms rows request) oneShotPrefix := by
  simp only [selectDrifted, supersededPairs, driftedPairs, newestPerScript,
    newestFirst_infosOf_congr ms rows request other]

end

/-- What a pass selects, or why it selects nothing, depends on the one-shot prefix alone. -/
theorem selectionOf_congr {settings other : MigrationSettings}
    (honce : other.oneShotPrefix = settings.oneShotPrefix)
    (discovered : Except Error (List ResolvedMigration))
    (rows : Except Error (List AppliedMigration)) :
    selectionOf discovered rows other = selectionOf discovered rows settings := by
  cases discovered with
  | error e => rfl
  | ok ms =>
    cases rows with
    | error e => rfl
    | ok handed =>
      cases hdup : firstDuplicate? [] ms with
      | some m =>
        -- no snapshot is made, and the error does not name the request
        simp [selectionOf, InfoService.load, InfoService.refresh, pair, hdup, Except.map]
      | none =>
        simp [selectionOf, InfoService.load, InfoService.refresh, pair, hdup, Except.map, honce,
          selectDrifted_infosOf_congr ms _ (passRequest settings) (passRequest other)]

/-! ### Passes under other settings -/

/-- The pass with another word on the order of runs in its events. -/
def Pass.retold {σ : Type} (outOfOrder : Bool) (pass : Pass σ) : Pass σ :=
  { pass with events := pass.events.map fun e => { e with outOfOrder := outOfOrder } }

section

variable {σ : Type} [LedgerAccess σ]

theorem purge_eq_retold (store : σ) (selection : DriftSelection) (outOfOrder other : Bool) :
    purge store selection other = (purge store selection outOfOrder).retold other := by
  rw [purge_eq, purge_eq, Pass.retold, List.map_map]
  rfl

/-- **A pass under other settings is the same pass**, told differently. -/
theorem reconcile_eq_retold {settings other : MigrationSettings}
    (hon : other.republishOnChange = settings.republishOnChange)
    (honce : other.oneShotPrefix = settings.oneShotPrefix)
    (discovered : Except Error (List ResolvedMigration)) (store : σ) :
    reconcile discovered store other
      = (reconcile discovered store settings).retold other.outOfOrder := by
  unfold reconcile
  rw [hon, selectionOf_congr honce]
  split
  · cases selectionOf discovered (LedgerAccess.rows store) settings with
    | error e => rfl
    | ok selection => exact purge_eq_retold store selection settings.outOfOrder other.outOfOrder
  · rfl

end

namespace Plain

/-- Runs pick the second version, go no further than what is applied, in any order, and every
error is silenced; a script that runs once stays. -/
def picking : MigrationSettings where
  target := .current
  outOfOrder := true
  cherryPick := ["2"]
  ignorePatterns := [IgnorePattern.everything]
  oneShotPrefix := some "O__"

end Plain

/-- **What a pass does does not depend on what runs may do.**  Whatever is discovered and however
the ledger behaves, passes under settings that agree on whether changed scripts are purged, and
on which of them run once, attempt the same deletes in the same order, of which the same succeed,
report the same or end with the same error, and leave the same ledger.  The audit log is told of
the same rows, each with whether the order matters to runs. -/
theorem pass_ignores_run_configuration {σ : Type} [LedgerAccess σ]
    {settings other : MigrationSettings}
    (hon : other.republishOnChange = settings.republishOnChange)
    (honce : other.oneShotPrefix = settings.oneShotPrefix)
    (discovered : Except Error (List ResolvedMigration)) (store : σ) :
    let pass := reconcile discovered store settings
    let otherPass := reconcile discovered store other
    otherPass.attempted = pass.attempted ∧ otherPass.removed = pass.removed ∧
      otherPass.outcome = pass.outcome ∧ otherPass.store = pass.store ∧
      otherPass.events = pass.events.map fun e => { e with outOfOrder := other.outOfOrder } := by
  intro pass otherPass
  have hpass : otherPass = pass.retold other.outOfOrder :=
    reconcile_eq_retold hon honce discovered store
  rw [hpass]
  exact ⟨rfl, rfl, rfl, rfl, rfl⟩

/-- Over the plain guarded ledger a pass attempts the same three deletes and is refused the third,
although runs may now do something else in every respect. -/
theorem pass_ignores_run_configuration_guarded :
    let pass := reconcile (.ok Plain.scripts) Plain.guarded Plain.picking
    pass.attempted = [Plain.row 4 none "R__view.sql" 29,
        Plain.row 2 (some Plain.one) "V1__table.sql" 9, Plain.row 1 none "R__view.sql" 28] ∧
      pass.outcome = .error (.ledger "delete of rank 1 refused") ∧
      pass.store.ledger.rows = [Plain.row 1 none "R__view.sql" 28,
        Plain.row 3 (some Plain.two) "V2__index.sql" 20, Plain.row 5 none "O__seed.sql" 39,
        Plain.tombstone 6 none "R__gone.sql"] := by
  intro pass
  have hkeys : DistinctKeys Plain.scripts := by decide
  have hranks : DistinctRanks (view Plain.guarded).rows := by decide
  have hselected : (passSelection Plain.scripts (view Plain.guarded).rows Plain.settings).rows
      = [Plain.row 4 none "R__view.sql" 29, Plain.row 2 (some Plain.one) "V1__table.sql" 9,
        Plain.row 1 none "R__view.sql" 28] :=
    (rows_passSelection (Ledger.strictlyAscending hranks)).trans (by decide)
  obtain ⟨hattempted, -, houtcome, hstore, -⟩ := pass_ignores_run_configuration
    (show Plain.picking.republishOnChange = Plain.settings.republishOnChange from rfl)
    (show Plain.picking.oneShotPrefix = Plain.settings.oneShotPrefix from rfl)
    (.ok Plain.scripts) Plain.guarded
  have hpass := reconcile_eq_purge hkeys hranks rfl (show Plain.settings.republishOnChange = true
    from rfl)
  rw [purge_eq, hselected] at hpass
  rw [hpass] at hattempted houtcome hstore
  exact ⟨hattempted, houtcome, congrArg (fun g => g.ledger.rows) hstore⟩

end MigrationLedger
