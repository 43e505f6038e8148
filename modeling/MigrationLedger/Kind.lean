/-!
# Kinds of migrations

A kind is built in or published by a provider outside this library.  It carries a
name, under which the ledger stores it, and facets.

## Main definitions

* `CoreKind`, `ExternalKind`, `Kind` — the built-in kinds, a published kind, and either.
* `Facets` — what the engine asks about a kind.
* `Kind.isTombstone` — the kind that marks an earlier entry as removed.

## Main results

* `CoreKind.ofName?_eq_some_iff` — a built-in kind is found by exactly its own name.
-/

namespace MigrationLedger

/-- What the engine asks about a kind. -/
structure Facets where
  /-- Only ever in the ledger, never discovered. -/
  synthetic : Bool
  /-- Reverses an earlier migration. -/
  undo : Bool
  /-- Marks a point from which the ledger starts. -/
  baseline : Bool
  deriving DecidableEq, Repr

/-- The built-in kinds. -/
inductive CoreKind
  | schema | baseline | delete
  | sql | sqlBaseline | undoSql
  | jdbc | jdbcBaseline | undoJdbc
  | script | scriptBaseline | undoScript
  | custom | undoCustom
  deriving DecidableEq, Repr

namespace CoreKind

/-- The built-in kinds in order. -/
def all : List CoreKind :=
  [.schema, .baseline, .delete, .sql, .sqlBaseline, .undoSql, .jdbc, .jdbcBaseline, .undoJdbc,
    .script, .scriptBaseline, .undoScript, .custom, .undoCustom]

/-- The name under which the ledger stores the kind. -/
def name : CoreKind → String
  | .schema => "SCHEMA"
  | .baseline => "BASELINE"
  | .delete => "DELETE"
  | .sql => "SQL"
  | .sqlBaseline => "SQL_BASELINE"
  | .undoSql => "UNDO_SQL"
  | .jdbc => "JDBC"
  | .jdbcBaseline => "JDBC_BASELINE"
  | .undoJdbc => "UNDO_JDBC"
  | .script => "SCRIPT"
  | .scriptBaseline => "SCRIPT_BASELINE"
  | .undoScript => "UNDO_SCRIPT"
  | .custom => "CUSTOM"
  | .undoCustom => "UNDO_CUSTOM"

/-- The facets of a built-in kind. -/
def facets : CoreKind → Facets
  | .schema | .delete => ⟨true, false, false⟩
  | .baseline => ⟨true, false, true⟩
  | .sqlBaseline | .jdbcBaseline | .scriptBaseline => ⟨false, false, true⟩
  | .undoSql | .undoJdbc | .undoScript | .undoCustom => ⟨false, true, false⟩
  | .sql | .jdbc | .script | .custom => ⟨false, false, false⟩

/-- The built-in kind of a name. -/
def ofName? (s : String) : Option CoreKind :=
  all.find? fun k => k.name == s

@[simp] theorem mem_all (k : CoreKind) : k ∈ all := by cases k <;> decide

theorem name_injective {k l : CoreKind} (h : k.name = l.name) : k = l := by
  revert h; cases k <;> cases l <;> decide

theorem ofName?_eq_some_iff {s : String} {k : CoreKind} : ofName? s = some k ↔ k.name = s := by
  constructor
  · intro h
    simpa using List.find?_some h
  · rintro rfl
    cases k <;> decide

end CoreKind

/-- A kind published by a provider.  Making one does not register it. -/
structure ExternalKind where
  /-- The provider that claims the kind. -/
  provider : String
  /-- The name under which the ledger stores the kind. -/
  name : String
  /-- The facets of the kind. -/
  facets : Facets
  deriving DecidableEq, Repr

/-- The kind of a migration. -/
inductive Kind
  /-- A built-in kind. -/
  | core (kind : CoreKind)
  /-- A kind published by a provider. -/
  | external (kind : ExternalKind)
  deriving DecidableEq, Repr

namespace Kind

/-- The name a kind carries. -/
def name : Kind → String
  | .core k => k.name
  | .external k => k.name

/-- The facets of a kind. -/
def facets : Kind → Facets
  | .core k => k.facets
  | .external k => k.facets

/-- The built-in set, among the providers of kinds. -/
def coreProvider : String := "core"

/-- The provider of a kind. -/
def provider : Kind → String
  | .core _ => coreProvider
  | .external k => k.provider

/-- A built-in kind. -/
def isCore : Kind → Bool
  | .core _ => true
  | .external _ => false

/-- Only ever in the ledger, never discovered. -/
def isSynthetic (k : Kind) : Bool := k.facets.synthetic

/-- Marks an earlier entry as removed. -/
def isTombstone (k : Kind) : Bool := k == .core .delete

@[simp] theorem isTombstone_eq_true_iff {k : Kind} :
    k.isTombstone = true ↔ k = .core .delete := by
  simp [isTombstone]

theorem isSynthetic_of_isTombstone {k : Kind} (h : k.isTombstone = true) :
    k.isSynthetic = true := by
  rw [isTombstone_eq_true_iff] at h
  subst h
  rfl

end Kind

end MigrationLedger
