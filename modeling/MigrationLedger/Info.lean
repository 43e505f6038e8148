import MigrationLedger.Migration

/-!
# Infos: migrations paired with ledger rows

An info shows one ledger row together with the discovered migration it belongs to,
or a discovered migration that no live row belongs to, and the state that follows
from both.

## Main definitions

* `MigrationState` — where a migration stands with respect to the ledger.
* `MigrationInfo` — a discovered migration, a ledger row, and their state.
* `MigrationInfo.compareRank` — the order of a listing: ledger rows by installed rank,
  then versioned migrations, then repeatable ones.
-/

namespace MigrationLedger

/-- Where a migration stands with respect to the ledger. -/
inductive MigrationState
  /-- Not applied yet. -/
  | pending
  /-- Not applied yet, older than the newest applied version, and allowed to run. -/
  | outOfOrder
  /-- Not applied and skipped. -/
  | ignored
  /-- Not applied and newer than the target. -/
  | aboveTarget
  /-- Applied. -/
  | success
  /-- Applied without success. -/
  | failed
  /-- Applied and no longer discovered. -/
  | missing
  /-- Applied, no longer discovered, and newer than everything discovered. -/
  | future
  /-- Marked as removed. -/
  | deleted
  deriving DecidableEq, Repr

namespace MigrationState

/-- The migration waits to run. -/
def isPending : MigrationState → Bool
  | .pending | .outOfOrder => true
  | _ => false

/-- A ledger row stands behind the state. -/
def isApplied : MigrationState → Bool
  | .success | .failed | .missing | .future | .deleted => true
  | _ => false

/-- The text of a state. -/
def display : MigrationState → String
  | .pending => "Pending"
  | .outOfOrder => "Out of Order"
  | .ignored => "Ignored"
  | .aboveTarget => "Above Target"
  | .success => "Success"
  | .failed => "Failed"
  | .missing => "Missing"
  | .future => "Future"
  | .deleted => "Deleted"

end MigrationState

/-- A discovered migration and a ledger row, either of which may be absent. -/
structure MigrationInfo where
  /-- The discovered side. -/
  resolved : Option ResolvedMigration
  /-- The ledger side. -/
  applied : Option AppliedMigration
  /-- Where the migration stands. -/
  state : MigrationState
  deriving DecidableEq

namespace MigrationInfo

/-- The version, of the ledger side where there is one. -/
def version (i : MigrationInfo) : Option Version :=
  match i.applied with
  | some a => a.version
  | none => i.resolved.bind ResolvedMigration.version

/-- The script, of the discovered side where there is one. -/
def script (i : MigrationInfo) : String :=
  match i.resolved with
  | some m => m.script
  | none => i.applied.elim "" AppliedMigration.script

/-- The kind, of the ledger side where there is one. -/
def kind (i : MigrationInfo) : Option Kind :=
  match i.applied with
  | some a => some a.kind
  | none => i.resolved.map ResolvedMigration.kind

/-- Both sides are present and name the same script. -/
def isMatched (i : MigrationInfo) : Bool :=
  match i.resolved, i.applied with
  | some m, some a => m.script == a.script
  | _, _ => false

/-- The part of a listing an info stands in: ledger rows, then versioned migrations, then
repeatable ones. -/
def part (i : MigrationInfo) : Nat :=
  if i.applied.isSome then 0 else if i.version.isSome then 1 else 2

/-- The rank of the ledger side; outside of the ledger it decides nothing. -/
def installedRank (i : MigrationInfo) : Int32 := i.applied.elim 0 AppliedMigration.installedRank

/-- What decides after the rank: the script, and outside of the ledger the version before it. -/
def rankKey (i : MigrationInfo) : Key :=
  match i.applied with
  | some a => ⟨none, a.script⟩
  | none => ⟨i.version, i.script⟩

/-- The order of a listing. -/
def compareRank : MigrationInfo → MigrationInfo → Ordering :=
  compareLex (compareOn part) (compareLex (compareOn installedRank) (compareOn rankKey))

instance : Std.TransCmp compareRank :=
  inferInstanceAs <| Std.TransCmp <|
    compareLex (compareOn part) (compareLex (compareOn installedRank) (compareOn rankKey))

/-- An info without a ledger side. -/
def planned (m : ResolvedMigration) (state : MigrationState) : MigrationInfo :=
  ⟨some m, none, state⟩

@[simp] theorem isMatched_mk (m : ResolvedMigration) (a : AppliedMigration) (s : MigrationState) :
    isMatched ⟨some m, some a, s⟩ = (m.script == a.script) := rfl

@[simp] theorem isMatched_planned (m : ResolvedMigration) (s : MigrationState) :
    (planned m s).isMatched = false := rfl

theorem applied_of_isMatched {i : MigrationInfo} (h : i.isMatched = true) :
    ∃ m a, i.resolved = some m ∧ i.applied = some a ∧ m.script = a.script := by
  obtain ⟨m, a, s⟩ := i
  cases m with
  | none => simp [isMatched] at h
  | some m =>
    cases a with
    | none => simp [isMatched] at h
    | some a => exact ⟨m, a, rfl, rfl, by simpa using h⟩

end MigrationInfo

end MigrationLedger
