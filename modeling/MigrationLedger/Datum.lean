import MigrationLedger.Text.Quoted

/-!
# Data

A configuration document describes a datum: a truth value, a number, a text, a list
or a map.  The members of a map stand in the order in which they came.

## Main definitions

* `Datum` — a value of a document.
* `Datum.describe` — what a reader is told of a value that has the wrong type.
-/

namespace MigrationLedger

/-- A value of a document. -/
inductive Datum
  /-- No value. -/
  | null
  /-- A truth value. -/
  | bool (value : Bool)
  /-- An integer. -/
  | integer (value : Int)
  /-- A number that is no integer, as it is written out. -/
  | decimal (digits : String)
  /-- A text. -/
  | text (value : String)
  /-- Several values in order. -/
  | list (items : List Datum)
  /-- Named values in order. -/
  | map (members : List (String × Datum))
  deriving Inhabited

namespace Datum

/-- A word between grave accents. -/
def marked (s : String) : String := "\x60" ++ s ++ "\x60"

/-- What a reader is told of a value that has the wrong type. -/
def describe : Datum → String
  | null => "null"
  | bool b => "boolean " ++ marked (if b then "true" else "false")
  | integer n => "integer " ++ marked (toString n)
  | decimal s => "floating point " ++ marked s
  | text s => "string " ++ Text.quoted s
  | list _ => "sequence"
  | map _ => "map"

end Datum

end MigrationLedger
