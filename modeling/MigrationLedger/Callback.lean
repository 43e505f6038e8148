import MigrationLedger.Reconcile

/-!
# Callbacks

A run passes through lifecycle events, and callbacks are called at those they
support, in the order in which they were registered.  A callback acts on a state,
such as a ledger and its audit log, and may fail; the first failure ends an event.

## Main definitions

* `LifecycleEvent` — the events.
* `Callback`, `Callback.fireAll` — a callback, and what an event does to the state.
* `Audited` — a ledger and its audit log.
* `reconcilerCallback` — the pass that runs before validation.

## Main results

* `fireAll_of_unsupported` — an event that nothing supports does nothing.
-/

namespace MigrationLedger

/-- The points of a run at which callbacks are called. -/
inductive LifecycleEvent
  /-- Before any migration runs. -/
  | beforeMigrate
  /-- Before the ledger is validated. -/
  | beforeValidate
  /-- After the ledger was found valid. -/
  | afterValidate
  /-- After all migrations ran. -/
  | afterMigrate
  deriving DecidableEq, Repr

namespace LifecycleEvent

/-- The events in the order of a run. -/
def all : List LifecycleEvent := [.beforeMigrate, .beforeValidate, .afterValidate, .afterMigrate]

/-- The name of an event. -/
def id : LifecycleEvent → String
  | .beforeMigrate => "beforeMigrate"
  | .beforeValidate => "beforeValidate"
  | .afterValidate => "afterValidate"
  | .afterMigrate => "afterMigrate"

/-- The event of a name. -/
def ofId? (s : String) : Option LifecycleEvent := all.find? fun e => e.id == s

end LifecycleEvent

/-- What is called at lifecycle events, acting on a state. -/
structure Callback (σ : Type) where
  /-- The name of the callback. -/
  name : String
  /-- The events at which it is called. -/
  supports : LifecycleEvent → Bool
  /-- Whether it may run within the transaction of the run. -/
  transactional : LifecycleEvent → Bool
  /-- What it does. -/
  handle : LifecycleEvent → σ → Except Error Unit × σ

namespace Callback

/-- The callbacks that support an event. -/
def supporting {σ : Type} (cs : List (Callback σ)) (e : LifecycleEvent) : List (Callback σ) :=
  cs.filter fun c => c.supports e

/-- Every callback that supports the event may run within a transaction. -/
def canRunInTransaction {σ : Type} (cs : List (Callback σ)) (e : LifecycleEvent) : Bool :=
  (supporting cs e).all fun c => c.transactional e

/-- Calls callbacks one after the other until one fails, and counts them. -/
def handleAll {σ : Type} (e : LifecycleEvent) : List (Callback σ) → σ → Except Error Nat × σ
  | [], s => (.ok 0, s)
  | c :: cs, s =>
    match c.handle e s with
    | (.error fault, s) => (.error fault, s)
    | (.ok (), s) =>
      let (count, s) := handleAll e cs s
      (count.map (· + 1), s)

/-- Calls every callback that supports the event, in order, until one fails. -/
def fireAll {σ : Type} (cs : List (Callback σ)) (e : LifecycleEvent) (s : σ) :
    Except Error Nat × σ :=
  handleAll e (supporting cs e) s

@[simp] theorem handleAll_nil {σ : Type} (e : LifecycleEvent) (s : σ) :
    handleAll e [] s = (.ok 0, s) := rfl

/-- An event that nothing supports does nothing. -/
theorem fireAll_of_unsupported {σ : Type} {cs : List (Callback σ)} {e : LifecycleEvent} (s : σ)
    (h : ∀ c ∈ cs, c.supports e = false) : fireAll cs e s = (.ok 0, s) := by
  have : supporting cs e = [] := by
    simpa [supporting, List.filter_eq_nil_iff] using h
  simp [fireAll, this]

end Callback

/-- A ledger and its audit log. -/
structure Audited (σ : Type) where
  /-- The ledger. -/
  store : σ
  /-- What the audit log was told, oldest first. -/
  log : List PurgeEvent := []

/-- The pass that runs before validation. -/
def reconcilerCallback {σ : Type} [LedgerAccess σ]
    (discovered : Except Error (List ResolvedMigration)) (settings : MigrationSettings) :
    Callback (Audited σ) where
  name := "drift-reconciler"
  supports e := e == .beforeValidate
  transactional _ := true
  handle _ s :=
    let pass := reconcile discovered s.store settings
    (pass.outcome.map fun _ => (), ⟨pass.store, s.log ++ pass.events⟩)

end MigrationLedger
