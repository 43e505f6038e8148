import MigrationLedger.Snapshot

/-!
# Settings

Migration settings say what a run may do and what happens to a script that changed
after it was applied.  Logging settings say how much is told, and how it looks.

## Main definitions

* `MigrationSettings`, `MigrationSettings.request` — the settings, and the request they describe.
* `MigrationSettings.validate` — settings that cannot be used are refused.
* `LoggingSettings` — level and format as configured.
-/

namespace MigrationLedger

/-- What a run may do, and what happens to changed scripts. -/
structure MigrationSettings where
  /-- How far a run may go. -/
  target : Target := .latest
  /-- Whether migrations older than the newest applied one may run. -/
  outOfOrder : Bool := false
  /-- If not empty, only these versions or scripts may run. -/
  cherryPick : List String := []
  /-- The patterns that silence validation errors. -/
  ignorePatterns : List IgnorePattern := []
  /-- Whether the rows of changed scripts are purged so that they run again. -/
  republishOnChange : Bool := true
  /-- Scripts that start with this text are never purged. -/
  oneShotPrefix : Option String := none
  deriving DecidableEq

namespace MigrationSettings

/-- The request the settings describe. -/
def request (s : MigrationSettings) : Request :=
  ⟨s.target, s.outOfOrder, s.ignorePatterns, s.cherryPick⟩

/-- The text that marks one-shot scripts is absent or not empty. -/
def isValid (s : MigrationSettings) : Bool := !s.oneShotPrefix.any String.isEmpty

/-- Refuses an empty text for one-shot scripts, which would cover every script. -/
def validate (s : MigrationSettings) : Except Error Unit :=
  if s.isValid then .ok ()
  else .error (.config "migrations.one_shot_prefix must not be empty; omit it instead")

theorem validate_eq_ok_iff {s : MigrationSettings} : s.validate = .ok () ↔ s.isValid = true := by
  unfold validate
  split <;> simp_all

@[simp] theorem isValid_default : isValid {} = true := rfl

end MigrationSettings

/-- Level and format as configured. -/
structure LoggingSettings where
  /-- The level. -/
  level : Option String := none
  /-- The format. -/
  format : Option String := none
  deriving DecidableEq, Repr

end MigrationLedger
