import MigrationLedger.Ledger
import MigrationLedger.Pattern
import MigrationLedger.Target

/-!
# Snapshots

A snapshot pairs the rows of a ledger with the discovered migrations by key and
derives a state for each.  Every row is listed; a discovered migration is listed
without a row when its key is not live, that is, when it has no row or its newest
row is a tombstone.

## Main definitions

* `Request` — what decides whether a migration that is not applied may run.
* `newestRow?`, `isLive` — the newest row of a key, and keys whose newest row is no tombstone.
* `newestApplied?`, `newestDiscovered?` — the versions the states are measured by.
* `appliedState`, `plannedState` — the state of a row, and of a migration without one.
* `pair` — the infos of a snapshot, or an error when two migrations share a key.
-/

namespace MigrationLedger

/-- What decides whether a migration that is not applied may run, and which errors matter. -/
structure Request where
  /-- How far a run may go. -/
  target : Target := .latest
  /-- Whether migrations older than the newest applied one may run. -/
  outOfOrder : Bool := false
  /-- The patterns that silence validation errors. -/
  ignorePatterns : List IgnorePattern := []
  /-- If not empty, only these versions or scripts may run. -/
  cherryPick : List String := []
  deriving DecidableEq

/-! ### Keys among rows and migrations -/

/-- The newest row of a key: the last one, when the rows ascend by rank. -/
def newestRow? (rows : List AppliedMigration) (k : Key) : Option AppliedMigration :=
  (rows.filter fun r => r.key.same k).getLast?

/-- The newest row of the key is no tombstone. -/
def isLive (rows : List AppliedMigration) (k : Key) : Bool :=
  (newestRow? rows k).any fun r => !r.isTombstone

/-- The discovered migration of a key. -/
def migrationOf? (ms : List ResolvedMigration) (k : Key) : Option ResolvedMigration :=
  ms.find? fun m => m.key.same k

/-- The first migration whose key an earlier one has, given the keys seen before. -/
def firstDuplicate? : List Key → List ResolvedMigration → Option ResolvedMigration
  | _, [] => none
  | seen, m :: ms =>
    if seen.any fun k => k.same m.key then some m else firstDuplicate? (m.key :: seen) ms

/-- The greatest of some versions. -/
def greatestVersion? (vs : List Version) : Option Version := greatestBy? compare vs

/-- The greatest discovered version. -/
def newestDiscovered? (ms : List ResolvedMigration) : Option Version :=
  greatestVersion? (ms.filterMap ResolvedMigration.version)

/-- A successful row of a live key that is no tombstone. -/
def countsAsApplied (rows : List AppliedMigration) (r : AppliedMigration) : Bool :=
  r.success && !r.isTombstone && isLive rows r.key

/-- The greatest applied version. -/
def newestApplied? (rows : List AppliedMigration) : Option Version :=
  greatestVersion? ((rows.filter (countsAsApplied rows)).filterMap AppliedMigration.version)

/-! ### States -/

/-- The version is greater than a limit; without a limit nothing is. -/
def exceeds (v : Version) (limit : Option Version) : Bool :=
  limit.any fun l => compare v l == .gt

/-- The newest row of the key of `r` is a tombstone of a greater rank. -/
def isSuperseded (rows : List AppliedMigration) (r : AppliedMigration) : Bool :=
  (newestRow? rows r.key).any fun newest =>
    newest.isTombstone && compare r.installedRank newest.installedRank == .lt

/-- The state of a row that no discovered migration belongs to: newer than everything
discovered, or missing. -/
def undiscoveredState (newest : Option Version) (r : AppliedMigration) : MigrationState :=
  match r.version, newest with
  | some v, some newest => if compare v newest == .gt then .future else .missing
  | some _, none => .future
  | none, _ => .missing

/-- The state of a row. -/
def appliedState (ms : List ResolvedMigration) (rows : List AppliedMigration)
    (r : AppliedMigration) : MigrationState :=
  if r.isTombstone || isSuperseded rows r then .deleted
  else if !r.success then .failed
  -- a synthetic row is never discovered, so that nothing is missing
  else if (migrationOf? ms r.key).isNone && !r.kind.isSynthetic then
    undiscoveredState (newestDiscovered? ms) r
  else .success

/-- A pick names a migration by its script or by its version. -/
def picks (m : ResolvedMigration) (pick : String) : Bool :=
  pick == m.script || m.version.any fun v =>
    match Version.parse? pick with
    | .ok picked => compare picked v == .eq
    | .error _ => false

/-- The request leaves the migration to be picked, and nothing picks it. -/
def isUnpicked (request : Request) (m : ResolvedMigration) : Bool :=
  !request.cherryPick.isEmpty && !request.cherryPick.any (picks m)

/-- The state of a migration without a live row. -/
def plannedState (request : Request) (newestApplied : Option Version)
    (m : ResolvedMigration) : MigrationState :=
  if isUnpicked request m then .ignored
  else
    match m.version with
    -- without a version there is nothing to measure against a target or the newest row
    | none => .pending
    | some v =>
      if exceeds v (request.target.limit newestApplied) then .aboveTarget
      else if newestApplied.any fun newest => compare v newest == .lt then
        if request.outOfOrder then .outOfOrder else .ignored
      else .pending

/-! ### Pairing -/

/-- The info of a row. -/
def appliedInfo (ms : List ResolvedMigration) (rows : List AppliedMigration)
    (r : AppliedMigration) : MigrationInfo :=
  ⟨migrationOf? ms r.key, some r, appliedState ms rows r⟩

/-- The migrations whose keys are not live, in the order of their keys. -/
def unapplied (ms : List ResolvedMigration) (rows : List AppliedMigration) :
    List ResolvedMigration :=
  (sortBy (compareOn ResolvedMigration.key) ms).filter fun m => !isLive rows m.key

/-- The infos of rows in ascending order of rank and of migrations with distinct keys. -/
def infosOf (ms : List ResolvedMigration) (rows : List AppliedMigration) (request : Request) :
    List MigrationInfo :=
  sortBy MigrationInfo.compareRank <|
    rows.map (appliedInfo ms rows)
      ++ (unapplied ms rows).map fun m =>
        MigrationInfo.planned m (plannedState request (newestApplied? rows) m)

/-- The infos of a snapshot.  Two migrations with one key are an error, told for the later one. -/
def pair (ms : List ResolvedMigration) (rows : List AppliedMigration) (request : Request) :
    Except Error (List MigrationInfo) :=
  match firstDuplicate? [] ms with
  | some m => .error (.duplicateMigration m.script (m.version.elim "<none>" Version.text))
  | none => .ok (infosOf ms rows request)

end MigrationLedger
