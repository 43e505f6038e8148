import MigrationLedger.Settings

/-!
# Configurations

A configuration holds migration and logging settings, and overrides of both for
named environments.  Applying an environment overlays its settings field by field
and uses the environment up.

## Main definitions

* `MigrationOverride`, `EnvironmentOverride` — settings that may each be left open.
* `Config`, `Config.validate` — a configuration, and whether it can be used.
* `Config.withEnvironment` — overlays the settings of an environment.

## Main results

* `MigrationOverride.apply_empty` — an override that leaves all open changes nothing.
* `Config.withEnvironment_of_unknown` — an unknown environment is refused.
* `Config.isValid_of_withEnvironment` — an overlay never yields settings that cannot be used.
-/

namespace MigrationLedger

/-- Migration settings that may each be left open. -/
structure MigrationOverride where
  /-- How far a run may go. -/
  target : Option Target := none
  /-- Whether migrations older than the newest applied one may run. -/
  outOfOrder : Option Bool := none
  /-- If not empty, only these versions or scripts may run. -/
  cherryPick : Option (List String) := none
  /-- The patterns that silence validation errors. -/
  ignorePatterns : Option (List IgnorePattern) := none
  /-- Whether the rows of changed scripts are purged so that they run again. -/
  republishOnChange : Option Bool := none
  /-- Scripts that start with this text are never purged. -/
  oneShotPrefix : Option String := none
  deriving DecidableEq

namespace MigrationOverride

/-- Settings with what the override sets. -/
def apply (o : MigrationOverride) (s : MigrationSettings) : MigrationSettings where
  target := o.target.getD s.target
  outOfOrder := o.outOfOrder.getD s.outOfOrder
  cherryPick := o.cherryPick.getD s.cherryPick
  ignorePatterns := o.ignorePatterns.getD s.ignorePatterns
  republishOnChange := o.republishOnChange.getD s.republishOnChange
  oneShotPrefix := o.oneShotPrefix.or s.oneShotPrefix

/-- An override that leaves all open changes nothing. -/
@[simp] theorem apply_empty (s : MigrationSettings) : apply {} s = s := by
  cases s
  simp [apply]

end MigrationOverride

/-- Logging settings with what an override sets. -/
def LoggingSettings.overlay (o s : LoggingSettings) : LoggingSettings :=
  ⟨o.level.or s.level, o.format.or s.format⟩

@[simp] theorem LoggingSettings.overlay_empty (s : LoggingSettings) : overlay {} s = s := by
  cases s
  simp [overlay]

/-- The overrides of an environment. -/
structure EnvironmentOverride where
  /-- Overrides of migration settings. -/
  migrations : Option MigrationOverride := none
  /-- Overrides of logging settings. -/
  logging : Option LoggingSettings := none
  deriving DecidableEq

/-- Settings, and overrides of them for named environments. -/
structure Config where
  /-- The migration settings. -/
  migrations : MigrationSettings := {}
  /-- The logging settings. -/
  logging : LoggingSettings := {}
  /-- The overrides by the name of their environment. -/
  environments : List (String × EnvironmentOverride) := []
  deriving DecidableEq

namespace Config

/-- Refuses settings that cannot be used. -/
def validate (c : Config) : Except Error Config := c.migrations.validate.map fun _ => c

/-- The settings with what an environment sets; the environment is used up. -/
def overlay (c : Config) (name : String) (o : EnvironmentOverride) : Config where
  migrations := (o.migrations.getD {}).apply c.migrations
  logging := (o.logging.getD {}).overlay c.logging
  environments := c.environments.filter fun e => e.1 != name

/-- Overlays the settings of an environment, if it is known and the result can be used. -/
def withEnvironment (c : Config) (name : String) : Except Error Config :=
  match c.environments.lookup name with
  | none => .error (.config ("unknown environment '" ++ name ++ "'"))
  | some o => (c.overlay name o).validate

theorem validate_eq_ok_iff {c d : Config} :
    c.validate = .ok d ↔ c.migrations.isValid = true ∧ c = d := by
  unfold validate MigrationSettings.validate
  split <;> simp_all [Except.map]

/-- An unknown environment is refused. -/
theorem withEnvironment_of_unknown {c : Config} {name : String}
    (h : c.environments.lookup name = none) :
    c.withEnvironment name = .error (.config ("unknown environment '" ++ name ++ "'")) := by
  simp [withEnvironment, h]

/-- An overlay never yields settings that cannot be used. -/
theorem isValid_of_withEnvironment {c d : Config} {name : String}
    (h : c.withEnvironment name = .ok d) : d.migrations.isValid = true := by
  unfold withEnvironment at h
  split at h
  · exact nomatch h
  · obtain ⟨hv, rfl⟩ := validate_eq_ok_iff.1 h
    exact hv

end Config

end MigrationLedger
