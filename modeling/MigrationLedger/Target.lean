import MigrationLedger.Migration

/-!
# Target versions

How far a run may go: to everything discovered, to the newest applied version, or
to a version that is given.

## Main definitions

* `Target`, `Target.parse` — a target, and its reader.
* `Target.limit` — the greatest version a target admits.
-/

namespace MigrationLedger

/-- How far a run may go. -/
inductive Target
  /-- To everything discovered. -/
  | latest
  /-- To the newest applied version. -/
  | current
  /-- To a given version. -/
  | version (v : Version)
  deriving DecidableEq

namespace Target

/-- Reads a target: one of two words in any ASCII case, or a version. -/
def parse (s : String) : Except Error Target :=
  let word := Text.lowerAscii (Text.trim s)
  if word = "latest" then .ok .latest
  else if word = "current" then .ok .current
  else (Version.parse s).map .version

/-- The text of a target. -/
def display : Target → String
  | .latest => "latest"
  | .current => "current"
  | .version v => v.text

/-- The greatest version a target admits, given the newest applied one. -/
def limit : Target → Option Version → Option Version
  | .latest, _ => none
  | .current, newestApplied => newestApplied
  | .version v, _ => some v

end Target

end MigrationLedger
