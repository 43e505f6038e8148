import MigrationLedger.Migration
import MigrationLedger.Text.Quoted

/-!
# Inspection

The full content of a migration or a registry as one line of text, for diagnostics.

## Main definitions

* `inspectRecord`, `inspectList`, `inspectOptional` — the layout of such a line.
* `ResolvedMigration.inspect`, `Registry.inspect` — the lines.
-/

namespace MigrationLedger

/-! ### Layout -/

/-- A record with its fields. -/
def inspectRecord (name : String) (fields : List (String × String)) : String :=
  name ++ " \x7b " ++ ", ".intercalate (fields.map fun f => f.1 ++ ": " ++ f.2) ++ " \x7d"

/-- One of several forms with its content. -/
def inspectForm (name content : String) : String := name ++ "(" ++ content ++ ")"

/-- A list. -/
def inspectList (items : List String) : String := "[" ++ ", ".intercalate items ++ "]"

/-- A value that may be absent. -/
def inspectOptional {α : Type} (inspect : α → String) : Option α → String
  | none => "None"
  | some a => inspectForm "Some" (inspect a)

/-- A truth value. -/
def inspectBool (b : Bool) : String := if b then "true" else "false"

/-- A checksum that may be absent. -/
def inspectChecksum : Option Int32 → String := inspectOptional fun n => toString n.toInt

/-! ### Content -/

/-- The content of a component of a version. -/
def Component.inspect : Component → String
  | .number n => inspectForm "Numeric" (Text.quoted (toString n))
  | .text s => inspectForm "Text" (Text.quoted s)

/-- The content of a version. -/
def Version.inspect (v : Version) : String :=
  inspectRecord "MigrationVersion"
    [("raw", Text.quoted v.text), ("parts", inspectList (v.components.map Component.inspect))]

/-- The form of a built-in kind. -/
def CoreKind.inspect : CoreKind → String
  | .schema => "Schema"
  | .baseline => "Baseline"
  | .delete => "Delete"
  | .sql => "Sql"
  | .sqlBaseline => "SqlBaseline"
  | .undoSql => "UndoSql"
  | .jdbc => "Jdbc"
  | .jdbcBaseline => "JdbcBaseline"
  | .undoJdbc => "UndoJdbc"
  | .script => "Script"
  | .scriptBaseline => "ScriptBaseline"
  | .undoScript => "UndoScript"
  | .custom => "Custom"
  | .undoCustom => "UndoCustom"

/-- The content of facets. -/
def Facets.inspect (f : Facets) : String :=
  inspectRecord "KindFacets"
    [("synthetic", inspectBool f.synthetic), ("undo", inspectBool f.undo),
      ("baseline", inspectBool f.baseline)]

/-- The content of a kind. -/
def Kind.inspect : Kind → String
  | .core k => inspectForm "Core" k.inspect
  | .external k =>
      inspectForm "External" <|
        inspectRecord "ExternalKind"
          [("provider", Text.quoted k.provider), ("name", Text.quoted k.name),
            ("facets", k.facets.inspect)]

/-- The content of a migration. -/
def ResolvedMigration.inspect (m : ResolvedMigration) : String :=
  inspectRecord "ResolvedMigration"
    [("version", inspectOptional Version.inspect m.version),
      ("description", Text.quoted m.description),
      ("script", Text.quoted m.script),
      ("checksum", inspectChecksum m.checksum),
      ("equivalent_checksum", inspectChecksum m.equivalentChecksum),
      ("kind", m.kind.inspect),
      ("physical_location", inspectOptional Text.quoted m.physicalLocation),
      ("executor", inspectBool m.executable)]

/-- The sets of kinds that a registry consults. -/
def Registry.inspect (r : Registry) : String :=
  inspectRecord "MigrationKindRegistry" [("sources", inspectList (r.sources.map Text.quoted))]

end MigrationLedger
