import MigrationLedger.Version

/-!
# Keys of migrations

A key names a migration across its discovered side and its ledger rows: a version,
absent for a repeatable migration, and a script.  Two keys are the same migration
when they compare as equal, however their versions are spelled.

## Main definitions

* `Key` — a version and a script.
* `Key.same` — the keys compare as equal.

## Main results

* `Key.compare_eq_iff` — keys are the same exactly when their versions compare as
  equal, or are both absent, and their scripts agree.
-/

namespace MigrationLedger

/-- A version, absent for a repeatable migration, and a script. -/
structure Key where
  /-- The version. -/
  version : Option Version
  /-- The script path. -/
  script : String
  deriving DecidableEq

namespace Key

/-- Repeatable keys first, then by version, then by script. -/
instance : Ord Key := ⟨compareLex (compareOn version) (compareOn script)⟩

instance : Std.TransOrd Key :=
  inferInstanceAs (Std.TransCmp (compareLex (compareOn version) (compareOn script)))

/-- Both keys name the same migration. -/
def same (a b : Key) : Bool := compare a b == .eq

/-- The text of a key. -/
def display (k : Key) : String :=
  (k.version.elim "<repeatable>" Version.text) ++ ":" ++ k.script

theorem compare_def (a b : Key) :
    compare a b = (compare a.version b.version).then (compare a.script b.script) := rfl

theorem compare_eq_iff {a b : Key} :
    compare a b = .eq ↔ compare a.version b.version = .eq ∧ a.script = b.script := by
  rw [compare_def, Ordering.then_eq_eq, Std.compare_eq_iff_eq (a := a.script)]

@[simp] theorem same_eq_true_iff {a b : Key} : a.same b = true ↔ compare a b = .eq := by
  simp [same]

@[simp] theorem same_self (a : Key) : a.same a = true := by
  simp

theorem same_comm (a b : Key) : a.same b = b.same a := by
  rw [Bool.eq_iff_iff, same_eq_true_iff, same_eq_true_iff,
    @Std.OrientedCmp.eq_swap Key compare _ a b, Ordering.swap_eq_eq]

theorem same_trans {a b c : Key} (h₁ : a.same b = true) (h₂ : b.same c = true) :
    a.same c = true := by
  rw [same_eq_true_iff] at *
  exact Std.TransCmp.eq_trans h₁ h₂

end Key

end MigrationLedger
