import MigrationLedger.Config.Schema
import MigrationLedger.Placeholder
import MigrationLedger.Toml.Document

/-!
# Reading configurations

The text of a configuration is read in four steps: placeholders are filled in, the
text is read as a document, the document is decoded, and the settings are checked.
The first step that fails decides.

## Main definitions

* `Config.read` — reads a configuration.
* `Config.ofFile`, `Config.load` — a configuration from the content of a file.

## Main results

* `Config.read_eq_ok_iff` — which configuration a text describes.
-/

namespace MigrationLedger.Config

/-- Reads a configuration. -/
def read (vars : Variables) (s : String) : Except Error Config :=
  match Toml.readDocument (expand vars s) with
  | none => .error (.toml .grammar)
  | some d =>
    match ofDatum d with
    | .error e => .error e
    | .ok c => c.validate

/-- The configuration of a file, given its content.  The file has to be there. -/
def ofFile (vars : Variables) (path : String) : Option ByteArray → Except Error Config
  | none => .error (.config ("failed to read " ++ path ++ ": no such file"))
  | some bytes =>
    match String.fromUTF8? bytes with
    | none => .error (.config ("failed to read " ++ path ++ ": the content is no text"))
    | some s => read vars s

/-- The configuration of a file, given its content, or the default where there is no file. -/
def load (vars : Variables) : Option ByteArray → Except Error Config
  | none => .ok {}
  | some bytes =>
    match String.fromUTF8? bytes with
    | none => .error (.io "the content is no text")
    | some s => read vars s

/-- Which configuration a text describes. -/
theorem read_eq_ok_iff {vars : Variables} {s : String} {c : Config} :
    read vars s = .ok c ↔ ∃ d, Toml.readDocument (expand vars s) = some d ∧
      ofDatum d = .ok c ∧ c.migrations.isValid = true := by
  unfold read
  cases Toml.readDocument (expand vars s) with
  | none => simp
  | some d =>
    cases hdatum : ofDatum d with
    | error e => simp [hdatum]
    | ok c' =>
      simp only [validate_eq_ok_iff, Option.some.injEq, exists_eq_left', hdatum, Except.ok.injEq]
      constructor
      · rintro ⟨hv, rfl⟩
        exact ⟨rfl, hv⟩
      · rintro ⟨rfl, hv⟩
        exact ⟨hv, rfl⟩

/-- A configuration that was read can be used. -/
theorem isValid_of_read {vars : Variables} {s : String} {c : Config}
    (h : read vars s = .ok c) : c.migrations.isValid = true := by
  obtain ⟨-, -, -, hv⟩ := read_eq_ok_iff.1 h
  exact hv

end MigrationLedger.Config
