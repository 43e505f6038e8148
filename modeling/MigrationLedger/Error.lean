/-!
# Errors

Everything that can go wrong in this library, by cause.  The errors of the two
document formats say how a text failed: a ledger row can end too early, be
malformed, or mean something else than a row, and a configuration can break the
grammar or mean something else than settings.

## Main definitions

* `RowFault`, `ConfigFault` — how the text of a row or of a configuration can fail.
* `Error`, `Error.message` — the causes, and the text a reader is shown for each.
-/

namespace MigrationLedger

/-- How the text of a ledger row can fail; the first fault from the left decides. -/
inductive RowFault
  /-- The text ended inside the row. -/
  | truncated
  /-- The text is no document of the notation, or goes on after the row. -/
  | malformed
  /-- A value of a wrong type or range, or a missing or repeated field. -/
  | mismatch
  deriving DecidableEq, Repr

/-- How the text of a configuration can fail. -/
inductive ConfigFault
  /-- The text breaks the grammar of the notation. -/
  | grammar
  /-- A well-formed document that does not describe a configuration. -/
  | meaning (message : String)
  deriving DecidableEq, Repr

/-- The causes of failure. -/
inductive Error
  /-- A kind that the provider it names does not list. -/
  | kindNotEnumerated (name provider : String)
  /-- A stored kind name that nothing registered carries. -/
  | unknownKind (name : String) (consulted : List String)
  /-- A malformed version. -/
  | invalidVersion (detail : String)
  /-- Two discovered migrations share version and script. -/
  | duplicateMigration (script version : String)
  /-- The ledger refused or failed. -/
  | ledger (detail : String)
  /-- A source of migrations failed. -/
  | resolver (detail : String)
  /-- A configuration that cannot be used. -/
  | config (detail : String)
  /-- A malformed validation pattern. -/
  | invalidPattern (detail : String)
  /-- A file could not be read. -/
  | io (detail : String)
  /-- The text of a configuration could not be read. -/
  | toml (fault : ConfigFault)
  /-- The text of a row or of settings could not be read. -/
  | json (fault : RowFault)
  deriving DecidableEq, Repr

namespace RowFault

/-- What a reader is told about a fault. -/
def message : RowFault → String
  | .truncated => "unexpected end of text"
  | .malformed => "malformed text"
  | .mismatch => "unexpected value"

end RowFault

namespace ConfigFault

/-- What a reader is told about a fault. -/
def message : ConfigFault → String
  | .grammar => "malformed document"
  | .meaning detail => detail

end ConfigFault

namespace Error

/-- The text a reader is shown. -/
def message : Error → String
  | .kindNotEnumerated name provider =>
      "migration kind '" ++ name ++ "' from provider '" ++ provider
        ++ "' is not a member of any registered kind set"
  | .unknownKind name consulted =>
      "migration kind '" ++ name ++ "' matches no registered kind (consulted: "
        ++ ", ".intercalate consulted ++ ")"
  | .invalidVersion detail => "invalid migration version: " ++ detail
  | .duplicateMigration script version =>
      "found more than one migration for script '" ++ script ++ "' (version " ++ version ++ ")"
  | .ledger detail => "Ledger error: " ++ detail
  | .resolver detail => "Resolver error: " ++ detail
  | .config detail => "Configuration error: " ++ detail
  | .invalidPattern detail => "Invalid validate pattern: " ++ detail
  | .io detail => "I/O error: " ++ detail
  | .toml fault => "TOML error: " ++ fault.message
  | .json fault => "JSON error: " ++ fault.message

/-- The errors that signal a broken registration of kinds. -/
def isTypeIntegrity : Error → Bool
  | .kindNotEnumerated .. | .unknownKind .. => true
  | _ => false

/-- The errors after which another attempt may succeed: only reading files is worth one. -/
def isRecoverable : Error → Bool
  | .io _ => true
  | _ => false

end Error

end MigrationLedger
