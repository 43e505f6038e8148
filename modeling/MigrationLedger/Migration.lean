import MigrationLedger.Key
import MigrationLedger.Registry
import MigrationLedger.Timestamp

/-!
# Migrations

A migration is known from two sides: it is discovered among the sources, and it is
applied, which a row of the ledger records.  A stored row keeps the kind by name
and the version as text; loading it looks up the one and reads the other.

## Main definitions

* `ResolvedMigration` — a discovered migration.
* `LedgerRow`, `AppliedMigration` — a row as stored, and as loaded.
* `AppliedMigration.ofRow`, `AppliedMigration.toRow` — loading and storing.
* `AppliedMigration.record` — the row that the audit log keeps.

## Main results

* `AppliedMigration.ofRow_toRow` — a stored row loads as the row it was made from,
  when the registry knows the kind by the name it is stored under.
-/

namespace MigrationLedger

/-- A migration discovered among the sources. -/
structure ResolvedMigration where
  /-- The version; a repeatable migration has none. -/
  version : Option Version
  /-- What the migration does, for people. -/
  description : String
  /-- The script path. -/
  script : String
  /-- The checksum of the script. -/
  checksum : Option Int32
  /-- The checksum of the script before placeholders are filled in. -/
  equivalentChecksum : Option Int32
  /-- The kind. -/
  kind : Kind
  /-- Where the script lies on disk. -/
  physicalLocation : Option String
  /-- Whether something can run the migration. -/
  executable : Bool
  deriving DecidableEq

namespace ResolvedMigration

/-- A migration without a version runs again whenever it changes. -/
def isRepeatable (m : ResolvedMigration) : Bool := m.version.isNone

/-- A recorded checksum fits the script, before or after placeholders are filled in. -/
def checksumMatches (m : ResolvedMigration) (recorded : Option Int32) : Bool :=
  recorded == m.checksum || (m.equivalentChecksum.isSome && recorded == m.equivalentChecksum)

/-- The key of a discovered migration. -/
def key (m : ResolvedMigration) : Key := ⟨m.version, m.script⟩

/-- Kind name, then version, repeatable migrations first, then script. -/
def compareCanonical : ResolvedMigration → ResolvedMigration → Ordering :=
  compareLex (compareOn fun m => m.kind.name) (compareOn key)

instance : Std.TransCmp compareCanonical :=
  inferInstanceAs
    (Std.TransCmp (compareLex (compareOn fun m : ResolvedMigration => m.kind.name) (compareOn key)))

/-- Discovered migrations in canonical order. -/
def sortCanonical (ms : List ResolvedMigration) : List ResolvedMigration :=
  sortBy compareCanonical ms

end ResolvedMigration

/-- A row of the ledger as stored. -/
structure LedgerRow where
  /-- The order in which rows were installed. -/
  installedRank : Int32
  /-- The version as text. -/
  version : Option String
  /-- What the migration does, for people. -/
  description : String
  /-- The name of the kind. -/
  kindName : String
  /-- The script path. -/
  script : String
  /-- The checksum of the script when it ran. -/
  checksum : Option Int32
  /-- Who installed the row. -/
  installedBy : String
  /-- When the row was installed. -/
  installedOn : Timestamp
  /-- How long the migration ran, in milliseconds. -/
  executionTime : Int64
  /-- Whether the migration succeeded. -/
  success : Bool
  deriving DecidableEq

/-- A row of the ledger as loaded. -/
structure AppliedMigration where
  /-- The order in which rows were installed. -/
  installedRank : Int32
  /-- The version; a repeatable migration has none. -/
  version : Option Version
  /-- What the migration does, for people. -/
  description : String
  /-- The kind. -/
  kind : Kind
  /-- The script path. -/
  script : String
  /-- The checksum of the script when it ran. -/
  checksum : Option Int32
  /-- Who installed the row. -/
  installedBy : String
  /-- When the row was installed. -/
  installedOn : Timestamp
  /-- How long the migration ran, in milliseconds. -/
  executionTime : Int64
  /-- Whether the migration succeeded. -/
  success : Bool
  deriving DecidableEq

/-- Reads a version that may be absent. -/
def Version.parseOptional : Option String → Except Error (Option Version)
  | none => .ok none
  | some s =>
    match Version.parse? s with
    | .ok v => .ok (some v)
    | .error fault => .error (.invalidVersion fault.message)

/-- Reads a version. -/
def Version.parse (s : String) : Except Error Version :=
  (Version.parse? s).mapError fun fault => .invalidVersion fault.message

namespace AppliedMigration

/-- The row of a successful run. -/
def ofResolved (m : ResolvedMigration) (rank : Int32) (installedBy : String)
    (installedOn : Timestamp) (executionTime : Int64) : AppliedMigration where
  installedRank := rank
  version := m.version
  description := m.description
  kind := m.kind
  script := m.script
  checksum := m.checksum
  installedBy := installedBy
  installedOn := installedOn
  executionTime := executionTime
  success := true

/-- Loads a row: its kind is looked up first, then its version is read. -/
def ofRow (r : Registry) (row : LedgerRow) : Except Error AppliedMigration := do
  let kind ← r.kindOf row.kindName
  let version ← Version.parseOptional row.version
  return {
    installedRank := row.installedRank
    version := version
    description := row.description
    kind := kind
    script := row.script
    checksum := row.checksum
    installedBy := row.installedBy
    installedOn := row.installedOn
    executionTime := row.executionTime
    success := row.success }

/-- The row with the kind under a given name. -/
def rowNamed (a : AppliedMigration) (kindName : String) : LedgerRow where
  installedRank := a.installedRank
  version := a.version.map Version.text
  description := a.description
  kindName := kindName
  script := a.script
  checksum := a.checksum
  installedBy := a.installedBy
  installedOn := a.installedOn
  executionTime := a.executionTime
  success := a.success

/-- Stores a row under the name the registry gives its kind. -/
def toRow (r : Registry) (a : AppliedMigration) : Except Error LedgerRow :=
  (r.nameOf a.kind).map a.rowNamed

/-- The row as the audit log keeps it, under the name that its kind carries. -/
def record (a : AppliedMigration) : LedgerRow := a.rowNamed a.kind.name

/-- The key of a row. -/
def key (a : AppliedMigration) : Key := ⟨a.version, a.script⟩

/-- Marks an earlier entry as removed. -/
def isTombstone (a : AppliedMigration) : Bool := a.kind.isTombstone

/-- The text of a version that may be absent reads back. -/
@[simp] theorem parseOptional_text (v : Option Version) :
    Version.parseOptional (v.map Version.text) = .ok v := by
  cases v <;> simp [Version.parseOptional, Version.parse?_text]

/-- A row loads as what it was made from when its name means its kind. -/
theorem ofRow_rowNamed {r : Registry} {a : AppliedMigration} {name : String}
    (h : r.kindOf name = .ok a.kind) : ofRow r (a.rowNamed name) = .ok a := by
  have hk : r.kindOf (a.rowNamed name).kindName = .ok a.kind := h
  have hv : Version.parseOptional (a.rowNamed name).version = .ok a.version :=
    parseOptional_text a.version
  simp only [ofRow, hk, hv]
  rfl

/-- A stored row loads as the row it was made from. -/
theorem ofRow_toRow {r : Registry} {a : AppliedMigration} {row : LedgerRow}
    (h : a.toRow r = .ok row) (hk : r.kindOf row.kindName = .ok a.kind) :
    ofRow r row = .ok a := by
  unfold toRow at h
  cases hn : r.nameOf a.kind with
  | error e => rw [hn] at h; exact nomatch h
  | ok name =>
    rw [hn] at h
    obtain rfl : a.rowNamed name = row := by simpa [Except.map] using h
    exact ofRow_rowNamed hk

end AppliedMigration

end MigrationLedger
