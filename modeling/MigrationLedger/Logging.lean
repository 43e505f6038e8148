import MigrationLedger.Placeholder
import MigrationLedger.Settings
import MigrationLedger.Text.Blank

/-!
# Logging

How much is told, and how it looks.  Variables of the environment win over the
configuration.  All words are compared without regard to case; since they are made of
letters that no other character has as its lower case, only ASCII letters matter.

## Main definitions

* `LogLevel`, `LogFormat` — the levels and formats.
* `isDebugEnabled`, `LogLevel.resolve`, `LogFormat.resolve` — what is in force.
-/

namespace MigrationLedger

/-- How much is told. -/
inductive LogLevel
  | trace | debug | info | warn | error
  deriving DecidableEq, Repr

namespace LogLevel

/-- The levels, the most talkative first. -/
def all : List LogLevel := [.trace, .debug, .info, .warn, .error]

/-- The word for a level. -/
def name : LogLevel → String
  | .trace => "trace"
  | .debug => "debug"
  | .info => "info"
  | .warn => "warn"
  | .error => "error"

/-- The level of a word. -/
def ofName? (s : String) : Option LogLevel := all.find? fun l => l.name == Text.lowerAscii s

end LogLevel

/-- How the log looks. -/
inductive LogFormat
  | json | pretty | compact
  deriving DecidableEq, Repr

namespace LogFormat

/-- The word for a format. -/
def name : LogFormat → String
  | .json => "json"
  | .pretty => "pretty"
  | .compact => "compact"

/-- The format of a word; an unknown word asks for the usual one. -/
def ofName (s : String) : LogFormat :=
  let word := Text.lowerAscii s
  if word = "pretty" then .pretty else if word = "compact" then .compact else .json

/-- The format in force: the variable decides where it is set, even to an unknown word. -/
def resolve (vars : Variables) (s : LoggingSettings) : LogFormat :=
  (((vars "STRATUM_LOG_FORMAT").or s.format).map ofName).getD .json

end LogFormat

/-- Debugging is on. -/
def isDebugEnabled (vars : Variables) : Bool :=
  (vars "STRATUM_DEBUG").any fun s => ["true", "1", "yes"].contains (Text.lowerAscii s)

/-- The level in force: the first known word among the variable and the configuration. -/
def LogLevel.resolve (vars : Variables) (s : LoggingSettings) : LogLevel :=
  (((vars "STRATUM_LOG_LEVEL").bind ofName?).or (s.level.bind ofName?)).getD
    (if isDebugEnabled vars then .debug else .warn)

end MigrationLedger
