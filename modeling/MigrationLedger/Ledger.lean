import MigrationLedger.Migration

/-!
# Ledgers

A ledger keeps the rows of applied migrations in ascending order of their installed
ranks.  The engine needs four things of a ledger: its rows, a way to delete a row,
a way to append one, and the rank of the next row.  Whatever refuses an operation
leaves its ledger as it was.

## Main definitions

* `Ledger` — rows in ascending order of rank.
* `Ledger.ofRows`, `Ledger.append`, `Ledger.delete`, `Ledger.nextRank` — its operations.
* `LedgerAccess` — what the engine needs of a ledger.
* `GuardedLedger` — a ledger behind a guard that refuses to be read or to delete certain rows.

## Main results

* `Ledger.ascending` — the rows ascend; every operation keeps this.
* `Ledger.mem_ofRows`, `Ledger.mem_of_append`, `Ledger.rows_of_delete` — what the
  operations do to the rows.
-/

namespace MigrationLedger

/-- The order of installed ranks. -/
def AppliedMigration.compareRank : AppliedMigration → AppliedMigration → Ordering :=
  compareOn AppliedMigration.installedRank

instance : Std.TransCmp AppliedMigration.compareRank :=
  inferInstanceAs (Std.TransCmp (compareOn AppliedMigration.installedRank))

/-- Rows in ascending order of rank, those of one rank in the order in which they came. -/
def sortByRank (rows : List AppliedMigration) : List AppliedMigration :=
  sortBy AppliedMigration.compareRank rows

/-- Rows in ascending order of rank. -/
structure Ledger where
  /-- The rows. -/
  rows : List AppliedMigration
  /-- The rows ascend. -/
  ascending : rows.Pairwise fun a b => (AppliedMigration.compareRank a b).isLE = true

namespace Ledger

/-- The ledger of these rows. -/
def ofRows (rows : List AppliedMigration) : Ledger := ⟨sortByRank rows, pairwise_sortBy _ rows⟩

/-- The ledger without rows. -/
def empty : Ledger := ofRows []

/-- The number of rows. -/
def size (l : Ledger) : Nat := l.rows.length

/-- There are no rows. -/
def isEmpty (l : Ledger) : Bool := l.rows.isEmpty

/-- The greatest rank. -/
def lastRank? (l : Ledger) : Option Int32 := (l.rows.map AppliedMigration.installedRank).max?

/-- The rank of the next row. -/
def nextRank (l : Ledger) : Int32 := l.lastRank?.elim 1 (· + 1)

/-- Some row has the rank. -/
def hasRank (l : Ledger) (rank : Int32) : Bool := l.rows.any fun r => r.installedRank == rank

/-- Appends a row, unless its rank is taken. -/
def append (l : Ledger) (row : AppliedMigration) : Except Error Ledger :=
  if l.hasRank row.installedRank then
    .error (.ledger ("installed rank " ++ toString row.installedRank.toInt ++ " is already taken"))
  else .ok (ofRows (l.rows ++ [row]))

/-- The ledger without the rows of a rank. -/
def without (l : Ledger) (rank : Int32) : Ledger :=
  ⟨l.rows.filter fun r => r.installedRank != rank, l.ascending.filter _⟩

/-- Deletes what has the rank of a row, unless nothing has. -/
def delete (l : Ledger) (row : AppliedMigration) : Except Error Ledger :=
  if l.hasRank row.installedRank then .ok (l.without row.installedRank)
  else .error (.ledger ("no row with installed rank " ++ toString row.installedRank.toInt
    ++ " for script '" ++ row.script ++ "'"))

@[ext] theorem ext {l m : Ledger} (h : l.rows = m.rows) : l = m := by
  cases l; cases m; cases h; rfl

@[simp] theorem mem_ofRows {rows : List AppliedMigration} {r : AppliedMigration} :
    r ∈ (ofRows rows).rows ↔ r ∈ rows := by
  simp [ofRows, sortByRank]

@[simp] theorem rows_empty : empty.rows = [] := by
  simp [empty, ofRows, sortByRank]

@[simp] theorem rows_without (l : Ledger) (rank : Int32) :
    (l.without rank).rows = l.rows.filter fun r => r.installedRank != rank := rfl

@[simp] theorem hasRank_iff {l : Ledger} {rank : Int32} :
    l.hasRank rank = true ↔ ∃ r ∈ l.rows, r.installedRank = rank := by
  simp [hasRank]

theorem hasRank_eq_false_iff {l : Ledger} {rank : Int32} :
    l.hasRank rank = false ↔ ∀ r ∈ l.rows, r.installedRank ≠ rank := by
  simp [hasRank]

theorem mem_of_append {l m : Ledger} {row r : AppliedMigration} (h : l.append row = .ok m) :
    r ∈ m.rows ↔ r ∈ l.rows ∨ r = row := by
  unfold append at h
  split at h
  · simp at h
  · cases h
    simp

theorem rows_of_delete {l m : Ledger} {row : AppliedMigration} (h : l.delete row = .ok m) :
    m.rows = l.rows.filter fun r => r.installedRank != row.installedRank := by
  unfold delete at h
  split at h
  · cases h
    rfl
  · simp at h

end Ledger

/-- What the engine needs of a ledger. -/
class LedgerAccess (σ : Type) where
  /-- The rows. -/
  rows : σ → Except Error (List AppliedMigration)
  /-- The ledger after deleting a row. -/
  delete : σ → AppliedMigration → Except Error σ
  /-- The ledger after appending a row. -/
  append : σ → AppliedMigration → Except Error σ
  /-- The rank of the next row. -/
  nextRank : σ → Int32

instance : LedgerAccess Ledger where
  rows l := .ok l.rows
  delete := Ledger.delete
  append := Ledger.append
  nextRank := Ledger.nextRank

/-- A ledger behind a guard. -/
structure GuardedLedger where
  /-- The ledger behind the guard. -/
  ledger : Ledger
  /-- The guard refuses to hand out the rows. -/
  unreadable : Bool := false
  /-- The guard hands out the rows in the opposite order. -/
  reversed : Bool := false
  /-- The ranks whose rows the guard refuses to delete. -/
  refused : List Int32 := []

namespace GuardedLedger

/-- The rows as the guard hands them out. -/
def rows (g : GuardedLedger) : Except Error (List AppliedMigration) :=
  if g.unreadable then .error (.ledger "ledger is unreadable")
  else .ok (if g.reversed then g.ledger.rows.reverse else g.ledger.rows)

/-- Deletes a row that the guard does not protect. -/
def delete (g : GuardedLedger) (row : AppliedMigration) : Except Error GuardedLedger :=
  if g.refused.contains row.installedRank then
    .error (.ledger ("delete of rank " ++ toString row.installedRank.toInt ++ " refused"))
  else (g.ledger.delete row).map fun l => { g with ledger := l }

/-- Appends a row. -/
def append (g : GuardedLedger) (row : AppliedMigration) : Except Error GuardedLedger :=
  (g.ledger.append row).map fun l => { g with ledger := l }

instance : LedgerAccess GuardedLedger where
  rows := rows
  delete := delete
  append := append
  nextRank g := g.ledger.nextRank

end GuardedLedger

end MigrationLedger
