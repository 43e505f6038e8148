import MigrationLedger.Error
import MigrationLedger.Kind

/-!
# The registry of kinds

The ledger stores kinds by name.  A registry answers both ways: which name a kind
is stored under, and which kind a stored name means.  Names that old ledgers still
hold are looked up first, then the built-in kinds, then the providers in the order
in which they were registered.

## Main definitions

* `Provider`, `Registry` — a provider of kinds, and the providers in order.
* `Registry.nameOf`, `Registry.kindOf` — the two directions.

## Main results

* `Registry.kindOf_append` — a further provider changes no name that was known.
-/

namespace MigrationLedger

/-- A provider of kinds. -/
structure Provider where
  /-- The name of the provider. -/
  name : String
  /-- The kinds it lists. -/
  kinds : List ExternalKind
  deriving DecidableEq, Repr

/-- The registered providers in order. -/
structure Registry where
  /-- The providers beside the built-in set. -/
  providers : List Provider
  deriving DecidableEq, Repr

namespace Registry

/-- The registry of the built-in kinds alone. -/
def core : Registry := ⟨[]⟩

/-- The registry with a further provider. -/
def register (r : Registry) (p : Provider) : Registry := ⟨r.providers ++ [p]⟩

/-- The sets of kinds by name, in the order in which they are consulted. -/
def sources (r : Registry) : List String := Kind.coreProvider :: r.providers.map Provider.name

/-- Every kind of the registry. -/
def kinds (r : Registry) : List Kind :=
  CoreKind.all.map .core ++ r.providers.flatMap fun p => p.kinds.map .external

/-- Kind names of old ledgers, with the kinds they stand for now. -/
def legacyNames : List (String × CoreKind) :=
  [("SPRING_JDBC", .jdbc), ("UNDO_SPRING_JDBC", .undoJdbc)]

/-- Whether the provider that a kind names lists it. -/
def lists (r : Registry) (k : ExternalKind) : Bool :=
  r.providers.any fun p => p.name == k.provider && p.kinds.contains k

/-- The name a kind is stored under.  A published kind needs a provider that lists it. -/
def nameOf (r : Registry) : Kind → Except Error String
  | .core k => .ok k.name
  | .external k =>
      if r.lists k then .ok k.name else .error (.kindNotEnumerated k.name k.provider)

/-- The first published kind of a name, in the order of registration. -/
def external? (r : Registry) (s : String) : Option ExternalKind :=
  r.providers.findSome? fun p => p.kinds.find? fun k => k.name == s

/-- The kind a name means: old names first, then the built-in ones, then the published ones. -/
def kindOf? (r : Registry) (s : String) : Option Kind :=
  match legacyNames.lookup s with
  | some k => some (.core k)
  | none =>
    match CoreKind.ofName? s with
    | some k => some (.core k)
    | none => (r.external? s).map .external

/-- The kind a stored name means. -/
def kindOf (r : Registry) (s : String) : Except Error Kind :=
  match r.kindOf? s with
  | some k => .ok k
  | none => .error (.unknownKind s r.sources)

theorem kindOf_eq_ok_iff {r : Registry} {s : String} {k : Kind} :
    r.kindOf s = .ok k ↔ r.kindOf? s = some k := by
  unfold kindOf
  split <;> simp_all

/-- A further provider changes no name that was known. -/
theorem kindOf_append {r : Registry} {s : String} {k : Kind} (p : Provider)
    (h : r.kindOf s = .ok k) : (r.register p).kindOf s = .ok k := by
  rw [kindOf_eq_ok_iff] at h ⊢
  unfold kindOf? at h ⊢
  split at h
  · simpa using h
  · split at h
    · simpa using h
    · obtain ⟨e, he, rfl⟩ := Option.map_eq_some_iff.1 h
      simp only [external?] at he
      simp [external?, register, List.findSome?_append, he]

end Registry

end MigrationLedger
