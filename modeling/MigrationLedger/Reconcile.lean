import MigrationLedger.Drift
import MigrationLedger.InfoService
import MigrationLedger.Record
import MigrationLedger.Settings

/-!
# Reconciliation

A pass purges the ledger rows of changed scripts, so that the scripts wait to run
again.  It takes a snapshot, selects the drifted and the superseded rows, and
deletes them one by one, drifted rows first.  The first delete that fails ends the
pass; what was deleted before stays deleted.  Every drifted row that was deleted is told
to the audit log with all it held.

## Main definitions

* `deleteAll` — deletes rows one after the other until one fails.
* `PurgeEvent` — what the audit log is told about a purged row.
* `Report`, `Pass` — what a finished pass reports, and what became of a pass.
* `selectionOf` — the rows that a pass over a ledger selects.
* `reconcile` — runs a pass.

## Main results

* `attempted_deleteAll`, `removed_deleteAll` — deletes are attempted and succeed from the front.
* `reconcile_of_selection` — a pass that selects rows deletes these rows.
-/

namespace MigrationLedger

/-! ### Deleting rows -/

/-- What became of deleting rows one after the other. -/
structure Deletion (σ : Type) where
  /-- The ledger afterwards. -/
  store : σ
  /-- The rows whose delete was attempted. -/
  attempted : List AppliedMigration
  /-- The rows that were deleted. -/
  removed : List AppliedMigration
  /-- Why the last attempt failed. -/
  fault : Option Error

/-- Deletes rows one after the other until one fails. -/
def deleteAll {σ : Type} [LedgerAccess σ] : σ → List AppliedMigration → Deletion σ
  | store, [] => ⟨store, [], [], none⟩
  | store, row :: rows =>
    match LedgerAccess.delete store row with
    | .error e => ⟨store, [row], [], some e⟩
    | .ok store =>
      let d := deleteAll store rows
      { d with attempted := row :: d.attempted, removed := row :: d.removed }

@[simp] theorem deleteAll_nil {σ : Type} [LedgerAccess σ] (store : σ) :
    deleteAll store [] = ⟨store, [], [], none⟩ := rfl

theorem deleteAll_cons_error {σ : Type} [LedgerAccess σ] {store : σ} {row : AppliedMigration}
    {e : Error} (rows : List AppliedMigration) (h : LedgerAccess.delete store row = .error e) :
    deleteAll store (row :: rows) = ⟨store, [row], [], some e⟩ := by
  simp [deleteAll, h]

theorem deleteAll_cons_ok {σ : Type} [LedgerAccess σ] {store next : σ} {row : AppliedMigration}
    (rows : List AppliedMigration) (h : LedgerAccess.delete store row = .ok next) :
    deleteAll store (row :: rows)
      = ⟨(deleteAll next rows).store, row :: (deleteAll next rows).attempted,
          row :: (deleteAll next rows).removed, (deleteAll next rows).fault⟩ := by
  simp [deleteAll, h]

/-- The deleted rows are a front part of the given rows, and all of them when nothing failed. -/
theorem removed_deleteAll {σ : Type} [LedgerAccess σ] (store : σ) (rows : List AppliedMigration) :
    ∃ rest, rows = (deleteAll store rows).removed ++ rest
      ∧ ((deleteAll store rows).fault = none ↔ rest = []) := by
  induction rows generalizing store with
  | nil => exact ⟨[], by simp⟩
  | cons row rows ih =>
    cases h : LedgerAccess.delete store row with
    | error e => exact ⟨row :: rows, by simp [deleteAll_cons_error rows h]⟩
    | ok next =>
      obtain ⟨rest, hrows, hrest⟩ := ih next
      refine ⟨rest, ?_, ?_⟩
      · rw [deleteAll_cons_ok rows h]
        simpa using hrows
      · rw [deleteAll_cons_ok rows h]
        exact hrest

/-- At most one attempt is no delete: the one that failed. -/
theorem attempted_deleteAll {σ : Type} [LedgerAccess σ] (store : σ)
    (rows : List AppliedMigration) :
    ((deleteAll store rows).fault = none →
        (deleteAll store rows).attempted = (deleteAll store rows).removed)
      ∧ ((deleteAll store rows).fault ≠ none →
        ∃ row, (deleteAll store rows).attempted = (deleteAll store rows).removed ++ [row]) := by
  induction rows generalizing store with
  | nil => simp
  | cons row rows ih =>
    cases h : LedgerAccess.delete store row with
    | error e => simp [deleteAll_cons_error rows h]
    | ok next => simpa [deleteAll_cons_ok rows h] using ih next

/-! ### Reports -/

/-- What the audit log is told about a purged row. -/
structure PurgeEvent where
  /-- The row. -/
  row : AppliedMigration
  /-- Whether older migrations may run after newer ones. -/
  outOfOrder : Bool
  deriving DecidableEq

namespace PurgeEvent

/-- The text of the event. -/
def message : String :=
  "Script changed after it was applied; purged its ledger row so it runs again"

/-- The row with all it held. -/
def record (e : PurgeEvent) : String := e.row.record.write

end PurgeEvent

/-- What a finished pass reports. -/
structure Report where
  /-- The number of matched pairs. -/
  matched : Nat := 0
  /-- The number of scripts among them. -/
  candidates : Nat := 0
  /-- The drifted rows that were deleted. -/
  purged : List AppliedMigration := []
  /-- The older rows of their scripts, deleted with them. -/
  superseded : List AppliedMigration := []
  deriving DecidableEq

namespace Report

/-- Nothing was purged. -/
def isEmpty (r : Report) : Bool := r.purged.isEmpty

/-- The scripts whose rows were purged. -/
def purgedScripts (r : Report) : List String := r.purged.map AppliedMigration.script

/-- The pass in a sentence. -/
def summary (r : Report) : String :=
  if r.isEmpty then "No drift detected (" ++ toString r.candidates ++ " scripts checked)"
  else "Purged " ++ toString r.purged.length ++ " of " ++ toString r.candidates ++ " scripts: "
    ++ ", ".intercalate r.purgedScripts

end Report

/-- What became of a pass. -/
structure Pass (σ : Type) where
  /-- The report, or why the pass ended early. -/
  outcome : Except Error Report
  /-- The ledger afterwards. -/
  store : σ
  /-- The rows whose delete was attempted. -/
  attempted : List AppliedMigration := []
  /-- The rows that were deleted. -/
  removed : List AppliedMigration := []
  /-- What the audit log was told. -/
  events : List PurgeEvent := []

/-! ### Passes -/

/-- The request of a pass: that of the settings, with nothing to validate. -/
def passRequest (settings : MigrationSettings) : Request :=
  { settings.request with ignorePatterns := [IgnorePattern.everything] }

/-- The rows that a pass over a ledger selects. -/
def selectionOf (discovered : Except Error (List ResolvedMigration))
    (rows : Except Error (List AppliedMigration)) (settings : MigrationSettings) :
    Except Error DriftSelection :=
  (InfoService.load discovered rows (passRequest settings)).map fun service =>
    selectDrifted service.infos settings.oneShotPrefix

/-- Deletes the drifted rows, each told to the audit log, and then the superseded ones. -/
def purge {σ : Type} [LedgerAccess σ] (store : σ) (selection : DriftSelection)
    (outOfOrder : Bool) : Pass σ :=
  let first := deleteAll store selection.drifted
  let events := first.removed.map fun row => PurgeEvent.mk row outOfOrder
  match first.fault with
  | some e => ⟨.error e, first.store, first.attempted, first.removed, events⟩
  | none =>
    -- nothing more is told: the events stay those of the drifted rows
    let second := deleteAll first.store selection.superseded
    let attempted := first.attempted ++ second.attempted
    let removed := first.removed ++ second.removed
    match second.fault with
    | some e => ⟨.error e, second.store, attempted, removed, events⟩
    | none =>
      ⟨.ok ⟨selection.matched, selection.candidates, first.removed, second.removed⟩,
        second.store, attempted, removed, events⟩

/-- Runs a pass.  Where republishing is off it does nothing. -/
def reconcile {σ : Type} [LedgerAccess σ] (discovered : Except Error (List ResolvedMigration))
    (store : σ) (settings : MigrationSettings) : Pass σ :=
  if settings.republishOnChange then
    match selectionOf discovered (LedgerAccess.rows store) settings with
    | .error e => ⟨.error e, store, [], [], []⟩
    | .ok selection => purge store selection settings.outOfOrder
  else ⟨.ok {}, store, [], [], []⟩

theorem reconcile_of_disabled {σ : Type} [LedgerAccess σ]
    {discovered : Except Error (List ResolvedMigration)} {store : σ}
    {settings : MigrationSettings} (h : settings.republishOnChange = false) :
    reconcile discovered store settings = ⟨.ok {}, store, [], [], []⟩ := by
  simp [reconcile, h]

/-- Only a pass that is switched on purges rows. -/
theorem republishOnChange_of_mem_purged {σ : Type} [LedgerAccess σ]
    {discovered : Except Error (List ResolvedMigration)} {store : σ}
    {settings : MigrationSettings} {report : Report}
    (hok : (reconcile discovered store settings).outcome = .ok report) {row : AppliedMigration}
    (hrow : row ∈ report.purged) : settings.republishOnChange = true := by
  cases hon : settings.republishOnChange with
  | true => rfl
  | false =>
    rw [reconcile_of_disabled hon] at hok
    obtain rfl : {} = report := Except.ok.inj hok
    exact absurd hrow List.not_mem_nil

/-- A pass that selects rows deletes these rows. -/
theorem reconcile_of_selection {σ : Type} [LedgerAccess σ]
    {discovered : Except Error (List ResolvedMigration)} {store : σ}
    {settings : MigrationSettings} {selection : DriftSelection}
    (h : settings.republishOnChange = true)
    (hs : selectionOf discovered (LedgerAccess.rows store) settings = .ok selection) :
    reconcile discovered store settings = purge store selection settings.outOfOrder := by
  simp [reconcile, h, hs]

end MigrationLedger
