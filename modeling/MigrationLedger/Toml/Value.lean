import MigrationLedger.Toml.Moment
import MigrationLedger.Toml.Number
import MigrationLedger.Toml.Text
import MigrationLedger.Toml.Tree

/-!
# TOML keys and values

Keys are bare words or strings of one line, joined by points.  Values are strings,
numbers, truth values, moments, arrays, and tables in braces.  Arrays may run over
several lines; a table in braces stands on one.

## Main definitions

* `readKey` — a dotted key.
* `readValue` — a value.
* `nestingLimit` — how deep keys and values may nest.
-/

namespace MigrationLedger.Toml

/-- A key has at most this many parts, and a value lies within at most this many others. -/
def nestingLimit : Nat := 79

/-! ### Keys -/

/-- The characters of a bare key. -/
def isBare (c : Char) : Bool := c.isAlphanum || c == '_' || c == '-'

/-- Reads a part of a key. -/
def readKeyPart (cs : List Char) : Option (String × List Char) :=
  match cs with
  | '"' :: _ | '\'' :: _ => readOneLine cs
  | cs =>
    let word := cs.takeWhile isBare
    if word.isEmpty then none else some (String.ofList word, cs.dropWhile isBare)

/-- Reads the parts of a key, at most `limit` of them, with space around each. -/
def readKeyParts : Nat → List Char → Option (DottedKey × List Char)
  | 0, _ => none
  | limit + 1, cs => do
    let (part, cs) ← readKeyPart (skipSpace cs)
    match skipSpace cs with
    | '.' :: cs => do
      let (k, cs) ← readKeyParts limit cs
      some (⟨part :: k.path, k.name⟩, cs)
    | cs => some (⟨[], part⟩, cs)

/-- Reads a dotted key with the space around it. -/
def readKey (cs : List Char) : Option (DottedKey × List Char) := readKeyParts nestingLimit cs

/-! ### Values -/

/-- Reads a dotted key, an equals sign and a value, with the space around them. -/
def readEntry (readItem : List Char → Option (Datum × List Char)) (cs : List Char) :
    Option ((DottedKey × Datum) × List Char) := do
  let (k, cs) ← readKey cs
  match cs with
  | '=' :: cs => do
    let (d, cs) ← readItem (skipSpace cs)
    some ((k, d), skipSpace cs)
  | _ => none

/-- Reads the items of an array and its end, at most `fuel` of them. -/
def readItems (readItem : List Char → Option (Datum × List Char)) :
    Nat → List Char → Option (List Datum × List Char)
  | 0, _ => none
  | fuel + 1, cs =>
    match skipFiller cs with
    | ']' :: cs => some ([], cs)
    | cs => do
      let (d, cs) ← readItem cs
      match skipFiller cs with
      | ',' :: cs => (readItems readItem fuel cs).map fun (ds, cs) => (d :: ds, cs)
      | ']' :: cs => some ([d], cs)
      | _ => none

/-- Reads the entries of a table in braces and its end, at most `fuel` of them. -/
def readEntries (readItem : List Char → Option (Datum × List Char)) :
    Nat → List Char → Option (List (DottedKey × Datum) × List Char)
  | 0, _ => none
  | fuel + 1, cs => do
    let (e, cs) ← readEntry readItem cs
    match cs with
    | ',' :: cs => (readEntries readItem fuel cs).map fun (es, cs) => (e :: es, cs)
    | '\x7d' :: cs => some ([e], cs)
    | _ => none

/-- Reads a table after its opening brace. -/
def readBraces (readItem : List Char → Option (Datum × List Char)) (cs : List Char) :
    Option (Datum × List Char) :=
  match skipSpace cs with
  | '\x7d' :: cs => some (.map [], cs)
  | cs => do
    let (entries, cs) ← readEntries readItem (cs.length + 1) cs
    let members ← insertAll? [] entries
    some (.map (membersToData members), cs)

/-- Reads a value without parts. -/
def readScalar (cs : List Char) : Option (Datum × List Char) :=
  match cs with
  | '"' :: _ | '\'' :: _ => (readString cs).map fun (s, cs) => (.text s, cs)
  | 't' :: 'r' :: 'u' :: 'e' :: cs => some (.bool true, cs)
  | 'f' :: 'a' :: 'l' :: 's' :: 'e' :: cs => some (.bool false, cs)
  | cs =>
    -- a moment starts like a number, and no number goes on like a moment
    match readMoment cs with
    | some (s, cs) => some (Moment.datum s, cs)
    | none => readNumber cs

/-- Reads a value with at most `limit` others inside each other. -/
def readValueWithin : Nat → List Char → Option (Datum × List Char)
  | 0, cs => readScalar cs
  | limit + 1, cs =>
    match cs with
    | '[' :: cs =>
      (readItems (readValueWithin limit) (cs.length + 1) cs).map fun (ds, cs) => (.list ds, cs)
    | '\x7b' :: cs => readBraces (readValueWithin limit) cs
    | cs => readScalar cs

/-- Reads a value. -/
def readValue (cs : List Char) : Option (Datum × List Char) := readValueWithin nestingLimit cs

end MigrationLedger.Toml
