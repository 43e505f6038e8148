import MigrationLedger.Migration
import MigrationLedger.Proofs.KindNames
import MigrationLedger.Proofs.Rows

/-!
# Storing and loading rows

A row is stored with its kind by name and its version as text, and either may be written in more
than one way: a name can be one of an old ledger, and blanks may stand around a version.  Loading a
row and storing it again writes both as they are written now and leaves all else alone, and a row
so written comes back as it is.  The other way round, a row that was stored loads as what it was,
if the name of its kind leads back to that kind.

## Main definitions

* `Registry.currentName` — the name of a kind, an old name replaced by the current one.
* `LedgerRow.current` — a stored row with its name and its version as they are written now.

## Main results

* `AppliedMigration.ofRow_eq_ok_iff`, `AppliedMigration.toRow_eq_ok_iff` — what a row loads as, and
  what it is stored as.
* `AppliedMigration.toRow_of_ofRow` — a loaded row is stored as it is written now.
* `rows_survive_storage` — **rows survive loading and storing.**
-/

namespace MigrationLedger

/-- The name of a kind, an old name replaced by the current one. -/
def Registry.currentName (s : String) : String := (legacy? s).elim s CoreKind.name

/-- The row with the name of its kind and its version as they are written now. -/
def LedgerRow.current (row : LedgerRow) : LedgerRow :=
  { row with version := row.version.map Text.trim, kindName := Registry.currentName row.kindName }

/-- The kind that a name means is called by the current form of the name. -/
theorem Registry.name_of_kindOf {r : Registry} {s : String} {k : Kind} (h : r.kindOf s = .ok k) :
    k.name = currentName s := by
  rw [kindOf_eq_ok_iff, kindOf?_eq] at h
  unfold currentName
  cases hold : legacy? s with
  | some c =>
    rw [hold] at h
    obtain rfl : Kind.core c = k := Option.some.inj h
    rfl
  | none =>
    rw [hold] at h
    exact name_of_firstNamed? h

namespace Version

/-- A version that was read keeps the trimmed text. -/
theorem text_of_parse? {s : String} {v : Version} (h : parse? s = .ok v) :
    v.text = Text.trim s := by
  unfold parse? at h
  split at h
  · rw [← Except.ok.inj h]
  · exact nomatch h

theorem text_of_parseOptional {s : Option String} {v : Option Version}
    (h : parseOptional s = .ok v) : v.map text = s.map Text.trim := by
  cases s with
  | none =>
    obtain rfl : none = v := Except.ok.inj h
    rfl
  | some s =>
    rw [parseOptional] at h
    cases hparse : parse? s with
    | ok w =>
      rw [hparse] at h
      obtain rfl : some w = v := Except.ok.inj h
      exact congrArg some (text_of_parse? hparse)
    | error fault =>
      rw [hparse] at h
      cases h

end Version

namespace AppliedMigration

variable {r : Registry} {row : LedgerRow} {a : AppliedMigration}

/-- A row loads when the name of its kind and its version can be read, and then as just these with
all else as it was. -/
theorem ofRow_eq_ok_iff :
    ofRow r row = .ok a ↔ r.kindOf row.kindName = .ok a.kind ∧
      Version.parseOptional row.version = .ok a.version ∧
      a.rowNamed row.kindName = { row with version := a.version.map Version.text } := by
  unfold ofRow
  cases hkind : r.kindOf row.kindName with
  | error e => simp [bind, Except.bind]
  | ok kind =>
    cases hversion : Version.parseOptional row.version with
    | error e => simp [bind, Except.bind]
    | ok version =>
      simp only [bind, Except.bind, pure, Except.pure]
      constructor
      · intro h
        obtain rfl := Except.ok.inj h
        exact ⟨rfl, rfl, rfl⟩
      · rintro ⟨hk, hv, hrow⟩
        obtain rfl := Except.ok.inj hk
        obtain rfl := Except.ok.inj hv
        cases a
        cases row
        cases hrow
        rfl

theorem toRow_eq_ok_iff :
    a.toRow r = .ok row ↔ ∃ name, r.nameOf a.kind = .ok name ∧ row = a.rowNamed name := by
  unfold toRow
  cases r.nameOf a.kind with
  | error e => simp [Except.map]
  | ok name => simp [Except.map, eq_comm]

/-- A loaded row has the current name of its kind and the trimmed text of its version. -/
theorem current_eq_rowNamed (h : ofRow r row = .ok a) : row.current = a.rowNamed a.kind.name := by
  obtain ⟨hkind, hversion, hrow⟩ := ofRow_eq_ok_iff.1 h
  -- only the name of the kind is another one than that under which the row was loaded
  have hnamed : a.rowNamed a.kind.name = { a.rowNamed row.kindName with kindName := a.kind.name } :=
    rfl
  rw [hnamed, hrow, Version.text_of_parseOptional hversion, Registry.name_of_kindOf hkind]
  rfl

/-- **A loaded row is stored as it is written now.** -/
theorem toRow_of_ofRow (h : r.ListsOwnKinds) (hload : ofRow r row = .ok a) :
    a.toRow r = .ok row.current := by
  have hmem := Registry.mem_kinds_of_kindOf (ofRow_eq_ok_iff.1 hload).1
  exact toRow_eq_ok_iff.2 ⟨a.kind.name, Registry.nameOf_of_mem_kinds h hmem,
    current_eq_rowNamed hload⟩

/-- The row as it is written now loads as the same. -/
theorem ofRow_current (h : ofRow r row = .ok a) : ofRow r row.current = .ok a := by
  rw [current_eq_rowNamed h]
  exact ofRow_rowNamed (Registry.kindOf_name_of_kindOf (ofRow_eq_ok_iff.1 h).1)

end AppliedMigration

/-- **Rows survive loading and storing.**  Where every provider lists kinds of its own, a row that
loads is stored again, with the current name of its kind and without the blanks around its version,
and as it was otherwise; to load that row and store it once more changes nothing.  And a row whose
kind is found by its name can be stored, and what is stored loads as that row. -/
theorem rows_survive_storage {r : Registry} (h : r.ListsOwnKinds) :
    (∀ row a, AppliedMigration.ofRow r row = .ok a →
      let stored := { row with
        version := row.version.map Text.trim
        kindName := Registry.currentName row.kindName }
      a.toRow r = .ok stored ∧ AppliedMigration.ofRow r stored = .ok a) ∧
    ∀ a name, r.nameOf a.kind = .ok name → r.kindOf name = .ok a.kind →
      ∃ stored, a.toRow r = .ok stored ∧ AppliedMigration.ofRow r stored = .ok a := by
  constructor
  · intro row a hload
    exact ⟨AppliedMigration.toRow_of_ofRow h hload, AppliedMigration.ofRow_current hload⟩
  · intro a name hname hkind
    exact ⟨a.rowNamed name, AppliedMigration.toRow_eq_ok_iff.2 ⟨name, hname, rfl⟩,
      AppliedMigration.ofRow_rowNamed hkind⟩

/-- A row of an old ledger is stored under the current name, and a published kind that another one
shadows nowhere comes back from its own name. -/
theorem rows_survive_storage_legacy :
    let row : LedgerRow := { (Plain.row 1 none "V2__index.sql" 20).rowNamed "SPRING_JDBC" with
      version := some " 2\n" }
    let published := { Plain.row 2 (some Plain.one) "V1__table.yaml" 10 with
      kind := .external (Plain.kind "yaml" "YAML") }
    (∃ a, AppliedMigration.ofRow Plain.shadowing row = .ok a ∧
      a.toRow Plain.shadowing = .ok { row with version := some "2", kindName := "JDBC" }) ∧
    ∃ stored, published.toRow Plain.shadowing = .ok stored ∧
      AppliedMigration.ofRow Plain.shadowing stored = .ok published := by
  intro row published
  have hown : Plain.shadowing.ListsOwnKinds := by decide
  obtain ⟨hrows, happlied⟩ := rows_survive_storage hown
  constructor
  · have hload : AppliedMigration.ofRow Plain.shadowing row = .ok
        { Plain.row 1 (some Plain.two) "V2__index.sql" 20 with kind := .core .jdbc } := by
      decide
    exact ⟨_, hload, (hrows row _ hload).1⟩
  · exact happlied published "YAML" (by decide) (by decide)

end MigrationLedger
