import MigrationLedger.Config
import MigrationLedger.Decode

/-!
# The schema of a configuration

The names and types of the fields of a configuration, in the order in which they
are told to a reader and in which a list gives them.

## Main definitions

* `MigrationSettings.decode`, `LoggingSettings.decode` — decoders of the settings.
* `EnvironmentOverride.decode` — the decoder of the overrides of an environment.
* `Config.ofDatum`, `MigrationSettings.ofDatum` — a configuration, and settings on their own.
-/

namespace MigrationLedger

namespace MigrationSettings

/-- The fields of migration settings. -/
def fields : List (Field MigrationSettings) :=
  [⟨"target", fun s d => (Decoder.parsed Target.parse d).map fun x => { s with target := x }⟩,
    ⟨"out_of_order", fun s d => (Decoder.bool d).map fun x => { s with outOfOrder := x }⟩,
    ⟨"cherry_pick", fun s d =>
      (Decoder.listOf Decoder.text d).map fun x => { s with cherryPick := x }⟩,
    ⟨"ignore_migration_patterns", fun s d =>
      (Decoder.listOf (Decoder.parsed IgnorePattern.parse) d).map fun x =>
        { s with ignorePatterns := x }⟩,
    ⟨"republish_on_change", fun s d =>
      (Decoder.bool d).map fun x => { s with republishOnChange := x }⟩,
    ⟨"one_shot_prefix", fun s d =>
      (Decoder.optional Decoder.text d).map fun x => { s with oneShotPrefix := x }⟩]

/-- Decodes migration settings. -/
def decode : Decoder MigrationSettings := Decoder.record "MigrationSettings" fields {}

/-- A list that gives more than the fields. -/
def isTooLong : Datum → Bool
  | .list ds => fields.length < ds.length
  | _ => false

/-- Settings that stand on their own, outside of a configuration. -/
def ofDatum (d : Datum) : Except Error MigrationSettings :=
  match decode d with
  | .ok s => if isTooLong d then .error (.json .mismatch) else .ok s
  | .error _ => .error (.json .mismatch)

end MigrationSettings

namespace LoggingSettings

/-- The fields of logging settings. -/
def fields : List (Field LoggingSettings) :=
  [⟨"level", fun s d => (Decoder.optional Decoder.text d).map fun x => { s with level := x }⟩,
    ⟨"format", fun s d => (Decoder.optional Decoder.text d).map fun x => { s with format := x }⟩]

/-- Decodes logging settings. -/
def decode : Decoder LoggingSettings := Decoder.record "LoggingConfig" fields {}

end LoggingSettings

namespace MigrationOverride

/-- The fields of the overrides of migration settings. -/
def fields : List (Field MigrationOverride) :=
  [⟨"target", fun o d =>
      (Decoder.optional (Decoder.parsed Target.parse) d).map fun x => { o with target := x }⟩,
    ⟨"out_of_order", fun o d =>
      (Decoder.optional Decoder.bool d).map fun x => { o with outOfOrder := x }⟩,
    ⟨"cherry_pick", fun o d =>
      (Decoder.optional (Decoder.listOf Decoder.text) d).map fun x => { o with cherryPick := x }⟩,
    ⟨"ignore_migration_patterns", fun o d =>
      (Decoder.optional (Decoder.listOf (Decoder.parsed IgnorePattern.parse)) d).map fun x =>
        { o with ignorePatterns := x }⟩,
    ⟨"republish_on_change", fun o d =>
      (Decoder.optional Decoder.bool d).map fun x => { o with republishOnChange := x }⟩,
    ⟨"one_shot_prefix", fun o d =>
      (Decoder.optional Decoder.text d).map fun x => { o with oneShotPrefix := x }⟩]

/-- Decodes overrides of migration settings. -/
def decode : Decoder MigrationOverride := Decoder.strictRecord "MigrationOverride" fields {}

end MigrationOverride

namespace EnvironmentOverride

/-- The fields of the overrides of an environment. -/
def fields : List (Field EnvironmentOverride) :=
  [⟨"migrations", fun o d =>
      (Decoder.optional MigrationOverride.decode d).map fun x => { o with migrations := x }⟩,
    ⟨"logging", fun o d =>
      (Decoder.optional LoggingSettings.decode d).map fun x => { o with logging := x }⟩]

/-- Decodes the overrides of an environment. -/
def decode : Decoder EnvironmentOverride := Decoder.strictRecord "EnvironmentOverride" fields {}

end EnvironmentOverride

namespace Config

/-- The fields of a configuration. -/
def fields : List (Field Config) :=
  [⟨"migrations", fun c d => (MigrationSettings.decode d).map fun x => { c with migrations := x }⟩,
    ⟨"logging", fun c d => (LoggingSettings.decode d).map fun x => { c with logging := x }⟩,
    ⟨"environments", fun c d =>
      (Decoder.dictionary EnvironmentOverride.decode d).map fun x => { c with environments := x }⟩]

/-- Decodes a configuration. -/
def decode : Decoder Config := Decoder.record "StratumConfig" fields {}

/-- The configuration that a document describes. -/
def ofDatum (d : Datum) : Except Error Config :=
  (decode d).mapError fun fault => .toml (.meaning fault.message)

end Config

end MigrationLedger
