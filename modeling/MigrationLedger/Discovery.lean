import MigrationLedger.Migration

/-!
# Discovery

Migrations come from sources.  Each source hands out its migrations in canonical
order or fails; several sources are merged into canonical order, and the first one
that fails decides.

## Main definitions

* `Source` — a fixed set of migrations, or a source that fails.
* `discover` — the migrations of several sources.

## Main results

* `discover_eq` — sources that do not fail are merged as if they were one.
-/

namespace MigrationLedger

/-- Where migrations come from. -/
inductive Source
  /-- A fixed set of migrations. -/
  | fixed (migrations : List ResolvedMigration)
  /-- A source that fails. -/
  | failing (detail : String)
  deriving DecidableEq

namespace Source

/-- The migrations of a source, in canonical order. -/
def resolve : Source → Except Error (List ResolvedMigration)
  | .fixed ms => .ok (ResolvedMigration.sortCanonical ms)
  | .failing detail => .error (.resolver detail)

end Source

/-- The migrations of several sources, one source after the other. -/
def collect : List Source → Except Error (List ResolvedMigration)
  | [] => .ok []
  | s :: ss =>
    match s.resolve with
    | .error e => .error e
    | .ok ms => (collect ss).map (ms ++ ·)

/-- The migrations of several sources, in canonical order. -/
def discover (ss : List Source) : Except Error (List ResolvedMigration) :=
  (collect ss).map ResolvedMigration.sortCanonical

theorem collect_fixed (mss : List (List ResolvedMigration)) :
    collect (mss.map Source.fixed) = .ok (mss.flatMap ResolvedMigration.sortCanonical) := by
  induction mss with
  | nil => rfl
  | cons ms mss ih => simp [collect, Source.resolve, ih, Except.map]

/-- Sources that do not fail are merged as if they were one. -/
theorem discover_eq (mss : List (List ResolvedMigration)) :
    discover (mss.map Source.fixed)
      = .ok (ResolvedMigration.sortCanonical (mss.flatMap ResolvedMigration.sortCanonical)) := by
  rw [discover, collect_fixed]
  rfl

end MigrationLedger
