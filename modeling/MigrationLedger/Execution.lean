import MigrationLedger.InfoService
import MigrationLedger.Settings

/-!
# Execution

Running what waits: a snapshot tells which migrations wait and in which order, and
each of them gets a row of the next rank.

## Main definitions

* `Runner` — who runs migrations, when, how long each takes, and which succeed.
* `appendRun` — appends the rows of a run.
* `runPending` — runs what waits.
-/

namespace MigrationLedger

/-- Who runs migrations, and what becomes of them. -/
structure Runner where
  /-- Who installs the rows. -/
  installedBy : String
  /-- When the rows are installed. -/
  installedOn : Timestamp
  /-- How long each migration runs, in milliseconds. -/
  executionTime : Int64
  /-- Which migrations succeed. -/
  succeeds : ResolvedMigration → Bool := fun _ => true

namespace Runner

/-- The row of a run. -/
def rowOf (r : Runner) (m : ResolvedMigration) (rank : Int32) : AppliedMigration :=
  { AppliedMigration.ofResolved m rank r.installedBy r.installedOn r.executionTime with
    success := r.succeeds m }

@[simp] theorem key_rowOf (r : Runner) (m : ResolvedMigration) (rank : Int32) :
    (r.rowOf m rank).key = m.key := rfl

end Runner

/-- Appends a row for each migration, in order, until one is refused.  Each migration has a
runner of its own. -/
def appendRun {σ : Type} [LedgerAccess σ] (runner : ResolvedMigration → Runner) :
    σ → List ResolvedMigration → Except Error (List AppliedMigration) × σ
  | store, [] => (.ok [], store)
  | store, m :: ms =>
    let row := (runner m).rowOf m (LedgerAccess.nextRank store)
    match LedgerAccess.append store row with
    | .error e => (.error e, store)
    | .ok store =>
      let (rows, store) := appendRun runner store ms
      (rows.map (row :: ·), store)

/-- Runs what waits under the settings, in order and by one runner: the rows appended, and the
ledger afterwards. -/
def runPending {σ : Type} [LedgerAccess σ] (runner : Runner)
    (discovered : Except Error (List ResolvedMigration)) (store : σ)
    (settings : MigrationSettings) : Except Error (List AppliedMigration) × σ :=
  match InfoService.load discovered (LedgerAccess.rows store) settings.request with
  | .error e => (.error e, store)
  | .ok service =>
    appendRun (fun _ => runner) store (service.pending.filterMap MigrationInfo.resolved)

end MigrationLedger
