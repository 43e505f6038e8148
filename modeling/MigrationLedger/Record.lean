import MigrationLedger.Json.Scalar
import MigrationLedger.Migration

/-!
# Records of ledger rows

The text of a row is a JSON object with ten members in a fixed order, without
space.  It is read from an object in any order, in which unknown members are
skipped and the optional ones may be missing, or from an array of the ten values.

## Main definitions

* `LedgerRow.write` — the text of a row.
* `LedgerRow.read` — reads a row, or tells the first fault from the left.
-/

namespace MigrationLedger

/-- The members of a row. -/
inductive RowField
  | installedRank | version | description | kindName | script
  | checksum | installedBy | installedOn | executionTime | success
  deriving DecidableEq, Repr

namespace RowField

/-- The members in the order in which they are written. -/
def all : List RowField :=
  [.installedRank, .version, .description, .kindName, .script, .checksum, .installedBy,
    .installedOn, .executionTime, .success]

/-- The name of a member. -/
def name : RowField → String
  | .installedRank => "installed_rank"
  | .version => "version"
  | .description => "description"
  | .kindName => "type"
  | .script => "script"
  | .checksum => "checksum"
  | .installedBy => "installed_by"
  | .installedOn => "installed_on"
  | .executionTime => "execution_time"
  | .success => "success"

/-- The member of a name. -/
def ofName? (s : String) : Option RowField := all.find? fun f => f.name == s

end RowField

namespace LedgerRow

/-! ### Writing -/

/-- The written form of an optional value. -/
def writeOptional {α : Type} (write : α → List Char) : Option α → List Char
  | none => ['n', 'u', 'l', 'l']
  | some a => write a

/-- The written form of a truth value. -/
def writeBool : Bool → List Char
  | true => ['t', 'r', 'u', 'e']
  | false => ['f', 'a', 'l', 's', 'e']

/-- The written form of a member's value. -/
def writeField (row : LedgerRow) : RowField → List Char
  | .installedRank => Json.writeInt row.installedRank.toInt
  | .version => writeOptional Json.writeString row.version
  | .description => Json.writeString row.description
  | .kindName => Json.writeString row.kindName
  | .script => Json.writeString row.script
  | .checksum => writeOptional (fun n => Json.writeInt n.toInt) row.checksum
  | .installedBy => Json.writeString row.installedBy
  | .installedOn => Json.writeString row.installedOn.write
  | .executionTime => Json.writeInt row.executionTime.toInt
  | .success => writeBool row.success

/-- The written form of a member. -/
def writeMember (row : LedgerRow) (f : RowField) : List Char :=
  Json.writeString f.name ++ ':' :: row.writeField f

/-- The text of a row. -/
def write (row : LedgerRow) : String :=
  String.ofList ('\x7b' :: [','].intercalate (RowField.all.map row.writeMember) ++ ['\x7d'])

end LedgerRow

/-! ### Reading -/

/-- The members of a row read so far. -/
structure RowDraft where
  /-- The member `installed_rank`. -/
  installedRank : Option Int32 := none
  /-- The member `version`. -/
  version : Option (Option String) := none
  /-- The member `description`. -/
  description : Option String := none
  /-- The member `type`. -/
  kindName : Option String := none
  /-- The member `script`. -/
  script : Option String := none
  /-- The member `checksum`. -/
  checksum : Option (Option Int32) := none
  /-- The member `installed_by`. -/
  installedBy : Option String := none
  /-- The member `installed_on`. -/
  installedOn : Option Timestamp := none
  /-- The member `execution_time`. -/
  executionTime : Option Int64 := none
  /-- The member `success`. -/
  success : Option Bool := none

namespace RowDraft

/-- A member was read already. -/
def has (d : RowDraft) : RowField → Bool
  | .installedRank => d.installedRank.isSome
  | .version => d.version.isSome
  | .description => d.description.isSome
  | .kindName => d.kindName.isSome
  | .script => d.script.isSome
  | .checksum => d.checksum.isSome
  | .installedBy => d.installedBy.isSome
  | .installedOn => d.installedOn.isSome
  | .executionTime => d.executionTime.isSome
  | .success => d.success.isSome

/-- The row, if no member is missing; version and checksum may be. -/
def finish? (d : RowDraft) : Option LedgerRow := do
  return {
    installedRank := ← d.installedRank
    version := d.version.join
    description := ← d.description
    kindName := ← d.kindName
    script := ← d.script
    checksum := d.checksum.join
    installedBy := ← d.installedBy
    installedOn := ← d.installedOn
    executionTime := ← d.executionTime
    success := ← d.success }

end RowDraft

namespace LedgerRow

/-- Reads an integer of 32 bits. -/
def readInt32 (cs : List Char) : Except RowFault (Int32 × List Char) :=
  (Json.readInteger (-2147483648) 2147483647 cs).map fun (n, rest) => (Int32.ofInt n, rest)

/-- Reads an integer of 64 bits. -/
def readInt64 (cs : List Char) : Except RowFault (Int64 × List Char) :=
  (Json.readInteger (-9223372036854775808) 9223372036854775807 cs).map fun (n, rest) =>
    (Int64.ofInt n, rest)

/-- Reads a text that is a timestamp. -/
def readTimestamp (cs : List Char) : Except RowFault (Timestamp × List Char) :=
  match Json.readText cs with
  | .error e => .error e
  | .ok (s, rest) =>
    match Timestamp.read? s with
    | some t => .ok (t, rest)
    | none => .error .mismatch

/-- Reads the value of a member. -/
def readField (d : RowDraft) (f : RowField) (cs : List Char) :
    Except RowFault (RowDraft × List Char) :=
  match f with
  | .installedRank =>
      (readInt32 cs).map fun (n, rest) => ({ d with installedRank := some n }, rest)
  | .version =>
      (Json.readOptional Json.readText cs).map fun (v, rest) =>
        ({ d with version := some v }, rest)
  | .description =>
      (Json.readText cs).map fun (s, rest) => ({ d with description := some s }, rest)
  | .kindName => (Json.readText cs).map fun (s, rest) => ({ d with kindName := some s }, rest)
  | .script => (Json.readText cs).map fun (s, rest) => ({ d with script := some s }, rest)
  | .checksum =>
      (Json.readOptional readInt32 cs).map fun (n, rest) => ({ d with checksum := some n }, rest)
  | .installedBy =>
      (Json.readText cs).map fun (s, rest) => ({ d with installedBy := some s }, rest)
  | .installedOn =>
      (readTimestamp cs).map fun (t, rest) => ({ d with installedOn := some t }, rest)
  | .executionTime =>
      (readInt64 cs).map fun (n, rest) => ({ d with executionTime := some n }, rest)
  | .success => (Json.readBool cs).map fun (b, rest) => ({ d with success := some b }, rest)

/-- Reads the colon after a key. -/
def readColon (cs : List Char) : Except RowFault (List Char) :=
  match Json.skipSpace cs with
  | ':' :: rest => .ok rest
  | [] => .error .truncated
  | _ => .error .malformed

/-- Reads a member after the quote that opens its key.  A repeated member is a mismatch as
soon as its key was read; an unknown one is skipped. -/
def readMember (d : RowDraft) (cs : List Char) : Except RowFault (RowDraft × List Char) := do
  let (key, cs) ← Json.readString cs
  match RowField.ofName? key with
  | some f =>
      if d.has f then throw .mismatch
      readField d f (← readColon cs)
  | none => return (d, ← Json.skipValue (← readColon cs))

/-- Reads the members of an object and its end, at most `fuel` of them. -/
def readMembers : Nat → Bool → RowDraft → List Char → Except RowFault (LedgerRow × List Char)
  | 0, _, _, _ => .error .truncated
  | fuel + 1, first, d, cs =>
    match Json.skipSpace cs with
    | [] => .error .truncated
    | c :: cs =>
      if c = '\x7d' then
        match d.finish? with
        | some row => .ok (row, cs)
        | none => .error .mismatch
      else do
        let cs ← if first then readQuote (c :: cs)
          else if c = ',' then readQuote (Json.skipSpace cs)
          else .error .malformed
        let (d, cs) ← readMember d cs
        readMembers fuel false d cs
where
  /-- Reads the quote that opens a key. -/
  readQuote : List Char → Except RowFault (List Char)
    | [] => .error .truncated
    | c :: cs => if c = '"' then .ok cs else .error .malformed

/-- Reads the values of an array, in the order of the members, and its end. -/
def readElements : List RowField → Bool → RowDraft → List Char →
    Except RowFault (LedgerRow × List Char)
  | [], _, d, cs =>
    match d.finish?, Json.skipSpace cs with
    | none, _ => .error .mismatch
    | _, [] => .error .truncated
    | some row, c :: cs => if c = ']' then .ok (row, cs) else .error .malformed
  | f :: fs, first, d, cs =>
    match Json.skipSpace cs with
    | [] => .error .truncated
    | c :: cs =>
      if c = ']' then .error .mismatch
      else do
        let cs ← if first then .ok (c :: cs)
          else if c = ',' then
            match Json.skipSpace cs with
            | [] => .error .truncated
            | ']' :: _ => .error .malformed
            | cs => .ok cs
          else .error .malformed
        let (d, cs) ← readField d f cs
        readElements fs false d cs

/-- Reads a row. -/
def read (s : String) : Except RowFault LedgerRow := do
  let (row, rest) ←
    match Json.skipSpace s.toList with
    | [] => .error .truncated
    | '\x7b' :: cs => readMembers (cs.length + 1) true {} cs
    | '[' :: cs => readElements RowField.all true {} cs
    | cs => .error (Json.wrongType cs)
  if (Json.skipSpace rest).isEmpty then .ok row else .error .malformed

end LedgerRow

end MigrationLedger
