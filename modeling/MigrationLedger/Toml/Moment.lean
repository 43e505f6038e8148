import MigrationLedger.Datum
import MigrationLedger.Timestamp

/-!
# TOML moments

Dates, times of day, and both together with or without an offset from UTC.  A
configuration has no use for a moment, so only its canonical text is kept.

## Main definitions

* `readMoment` — the canonical text of a moment.
* `Moment.datum` — the datum of a moment.
-/

namespace MigrationLedger.Toml

namespace Moment

/-- A moment stands in a document as a map of one member that holds its text. -/
def datum (s : String) : Datum := .map [("$__toml_private_datetime", .text s)]

/-- Reads two digits. -/
def readPair (cs : List Char) : Option (Nat × List Char) := Timestamp.readTwoDigits cs

/-- Reads the character `mark`. -/
def readMark (mark : Char) : List Char → Option (List Char)
  | c :: cs => if c = mark then some cs else none
  | [] => none

/-- Reads a day of the calendar. -/
def readDate (cs : List Char) : Option (List Char × List Char) := do
  let (century, cs) ← readPair cs
  let (year, cs) ← readPair cs
  let cs ← readMark '-' cs
  let (month, cs) ← readPair cs
  let cs ← readMark '-' cs
  let (day, cs) ← readPair cs
  let date ← Date.of? (century * 100 + year : Nat) month day
  some (Timestamp.writeYear date.year ++ '-' :: Timestamp.padded 2 month
    ++ '-' :: Timestamp.padded 2 day, cs)

/-- Reads an optional fraction of a second, of which nine digits count. -/
def readFraction : List Char → Option (List Char × List Char)
  | '.' :: cs =>
    let ds := cs.takeWhile Char.isDigit
    if ds.isEmpty then none
    else
      let kept := ((ds.take 9).reverse.dropWhile (· == '0')).reverse
      some (if kept.isEmpty then [] else '.' :: kept, cs.dropWhile Char.isDigit)
  | cs => some ([], cs)

/-- Reads a time of day. -/
def readTime (cs : List Char) : Option (List Char × List Char) := do
  let (hour, cs) ← readPair cs
  let cs ← readMark ':' cs
  let (minute, cs) ← readPair cs
  let cs ← readMark ':' cs
  let (second, cs) ← readPair cs
  let (fraction, cs) ← readFraction cs
  if hour < 24 ∧ minute < 60 ∧ second ≤ 60 then
    some (Timestamp.padded 2 hour ++ ':' :: Timestamp.padded 2 minute
      ++ ':' :: Timestamp.padded 2 second ++ fraction, cs)
  else none

/-- Reads the hours and minutes of an offset. -/
def readOffsetMinutes (cs : List Char) : Option (Nat × List Char) := do
  let (hour, cs) ← readPair cs
  let cs ← readMark ':' cs
  let (minute, cs) ← readPair cs
  if hour < 24 ∧ minute < 60 then some (hour * 60 + minute, cs) else none

/-- The canonical text of an offset. -/
def writeOffset (negative : Bool) (minutes : Nat) : List Char :=
  (if negative && minutes != 0 then '-' else '+') :: Timestamp.padded 2 (minutes / 60)
    ++ ':' :: Timestamp.padded 2 (minutes % 60)

/-- Reads an optional offset from UTC. -/
def readOffset : List Char → List Char × List Char
  | 'Z' :: cs | 'z' :: cs => (['Z'], cs)
  | '+' :: cs =>
    match readOffsetMinutes cs with
    | some (n, rest) => (writeOffset false n, rest)
    | none => ([], '+' :: cs)
  | '-' :: cs =>
    match readOffsetMinutes cs with
    | some (n, rest) => (writeOffset true n, rest)
    | none => ([], '-' :: cs)
  | cs => ([], cs)

/-- Reads an optional time of day, and an optional offset, after a date. -/
def readTimeAfterDate : List Char → List Char × List Char
  | c :: cs =>
    if c = 'T' ∨ c = 't' ∨ c = ' ' then
      match readTime cs with
      | some (time, cs) =>
        let (offset, cs) := readOffset cs
        ('T' :: time ++ offset, cs)
      | none => ([], c :: cs)
    else ([], c :: cs)
  | [] => ([], [])

end Moment

/-- Reads a moment as its canonical text. -/
def readMoment (cs : List Char) : Option (String × List Char) :=
  match Moment.readDate cs with
  | some (date, cs) =>
    let (time, cs) := Moment.readTimeAfterDate cs
    some (String.ofList (date ++ time), cs)
  | none => (Moment.readTime cs).map fun (time, cs) => (String.ofList time, cs)

end MigrationLedger.Toml
