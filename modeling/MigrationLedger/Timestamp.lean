import MigrationLedger.Text.Blank

/-!
# Timestamps

A timestamp is a second of a UTC day in the Gregorian calendar, with a fraction in
nanoseconds.  The second 60 is a leap second.  Timestamps are written as
`2024-05-06T07:08:09.120Z`, with the fewest of 0, 3, 6 or 9 fraction digits that
lose nothing.  They are read more freely: blanks may stand around the parts of a
date and of a time, numbers may be shorter than usual, and an offset from UTC is
taken off, which moves the date by at most one day.

## Main definitions

* `Date`, `Timestamp` — a day, and a moment in it.
* `Date.next?`, `Date.previous?` — the days beside a day, within the calendar's years.
* `Timestamp.write`, `Timestamp.read?` — the text of a timestamp, and back.
-/

namespace MigrationLedger

/-- The years in which the calendar adds a day to February. -/
def isLeapYear (year : Int) : Bool :=
  year % 4 == 0 && (year % 100 != 0 || year % 400 == 0)

/-- The number of days of a month. -/
def daysInMonth (year : Int) (month : Nat) : Nat :=
  match month with
  | 2 => if isLeapYear year then 29 else 28
  | 4 | 6 | 9 | 11 => 30
  | _ => 31

/-- The first year of the calendar. -/
def firstYear : Int := -262143

/-- The last year of the calendar. -/
def lastYear : Int := 262142

/-- A day of the Gregorian calendar. -/
structure Date where
  /-- The year; the year before 1 is 0. -/
  year : Int
  /-- The month, from 1. -/
  month : Nat
  /-- The day of the month, from 1. -/
  day : Nat
  /-- The day is one of the calendar. -/
  valid : (firstYear ≤ year ∧ year ≤ lastYear) ∧ (1 ≤ month ∧ month ≤ 12)
    ∧ 1 ≤ day ∧ day ≤ daysInMonth year month
  deriving DecidableEq, Repr

namespace Date

/-- The day of these numbers, if there is one. -/
def of? (year : Int) (month day : Nat) : Option Date :=
  if h : (firstYear ≤ year ∧ year ≤ lastYear) ∧ (1 ≤ month ∧ month ≤ 12)
      ∧ 1 ≤ day ∧ day ≤ daysInMonth year month then
    some ⟨year, month, day, h⟩
  else none

/-- The following day. -/
def next? (d : Date) : Option Date :=
  if d.day < daysInMonth d.year d.month then of? d.year d.month (d.day + 1)
  else if d.month < 12 then of? d.year (d.month + 1) 1
  else of? (d.year + 1) 1 1

/-- The day before. -/
def previous? (d : Date) : Option Date :=
  if 1 < d.day then of? d.year d.month (d.day - 1)
  else if 1 < d.month then of? d.year (d.month - 1) (daysInMonth d.year (d.month - 1))
  else of? (d.year - 1) 12 31

/-- The day `n` days later, for `n` between -1 and 1. -/
def shift? (d : Date) (n : Int) : Option Date :=
  if n < 0 then d.previous? else if 0 < n then d.next? else some d

@[simp] theorem of?_self (d : Date) : of? d.year d.month d.day = some d := by
  simp [of?, d.valid]

@[simp] theorem shift?_zero (d : Date) : d.shift? 0 = some d := rfl

end Date

/-- A moment, in UTC. -/
structure Timestamp where
  /-- The day. -/
  date : Date
  /-- The hour of the day. -/
  hour : Nat
  /-- The minute of the hour. -/
  minute : Nat
  /-- The second of the minute; 60 is a leap second. -/
  second : Nat
  /-- The fraction of the second. -/
  nanos : Nat
  /-- The numbers are those of a moment. -/
  valid : hour < 24 ∧ minute < 60 ∧ second ≤ 60 ∧ nanos < 1000000000
  deriving DecidableEq, Repr

namespace Timestamp

/-! ### Writing -/

/-- A number with at least `width` digits. -/
def padded (width n : Nat) : List Char :=
  let ds := Nat.toDigits 10 n
  List.replicate (width - ds.length) '0' ++ ds

/-- Four digits; outside of them the sign is written too. -/
def writeYear (year : Int) : List Char :=
  if 0 ≤ year ∧ year ≤ 9999 then padded 4 year.toNat
  else (if year < 0 then '-' else '+') :: padded 4 year.natAbs

/-- The fewest of 0, 3, 6 or 9 digits that lose nothing. -/
def writeFraction (nanos : Nat) : List Char :=
  if nanos = 0 then []
  else if nanos % 1000000 = 0 then '.' :: padded 3 (nanos / 1000000)
  else if nanos % 1000 = 0 then '.' :: padded 6 (nanos / 1000)
  else '.' :: padded 9 nanos

/-- The text of a timestamp. -/
def write (t : Timestamp) : String :=
  String.ofList <|
    writeYear t.date.year ++ '-' :: padded 2 t.date.month ++ '-' :: padded 2 t.date.day
      ++ 'T' :: padded 2 t.hour ++ ':' :: padded 2 t.minute ++ ':' :: padded 2 t.second
      ++ writeFraction t.nanos ++ ['Z']

/-! ### Reading -/

/-- A text without its leading blanks. -/
def skipBlanks (cs : List Char) : List Char := cs.dropWhile Text.isBlank

/-- Reads between one and `most` digits. -/
def readDigits (most : Nat) (cs : List Char) : Option (List Char × List Char) :=
  let ds := (cs.take most).takeWhile Char.isDigit
  if ds.isEmpty then none else some (ds, cs.drop ds.length)

/-- Reads a number of at most `most` digits, after blanks. -/
def readNumber (most : Nat) (cs : List Char) : Option (Nat × List Char) :=
  (readDigits most (skipBlanks cs)).map fun (ds, rest) => (Nat.ofDigitChars 10 ds 0, rest)

/-- Reads a year, after blanks: a sign and any digits, or at most four digits. -/
def readYear (cs : List Char) : Option (Int × List Char) :=
  match skipBlanks cs with
  | '-' :: rest =>
      (readDigits rest.length rest).map fun (ds, rest) => (-(Nat.ofDigitChars 10 ds 0 : Int), rest)
  | '+' :: rest =>
      (readDigits rest.length rest).map fun (ds, rest) => ((Nat.ofDigitChars 10 ds 0 : Int), rest)
  | rest => (readDigits 4 rest).map fun (ds, rest) => ((Nat.ofDigitChars 10 ds 0 : Int), rest)

/-- Reads one character, after blanks. -/
def readMark (c : Char) (cs : List Char) : Option (List Char) :=
  match skipBlanks cs with
  | d :: rest => if d = c then some rest else none
  | [] => none

/-- Reads the character between a date and a time. -/
def readDivider : List Char → Option (List Char)
  | c :: rest => if c = 'T' ∨ c = 't' ∨ c = ' ' then some rest else none
  | [] => none

/-- Reads an optional fraction of a second; digits after the ninth count for nothing. -/
def readFraction : List Char → Option (Nat × List Char)
  | '.' :: cs =>
      (readDigits 9 cs).map fun (ds, rest) =>
        (Nat.ofDigitChars 10 ds 0 * Nat.pow 10 (9 - ds.length), rest.dropWhile Char.isDigit)
  | cs => some (0, cs)

/-- Reads the two digits of a part of an offset. -/
def readTwoDigits : List Char → Option (Nat × List Char)
  | a :: b :: rest =>
      if a.isDigit && b.isDigit then some (Nat.ofDigitChars 10 [a, b] 0, rest) else none
  | _ => none

/-- Reads the hours and minutes of an offset; colons and blanks may stand between them. -/
def readOffsetMinutes (cs : List Char) : Option (Nat × List Char) := do
  let (hours, cs) ← readTwoDigits cs
  let (minutes, cs) ← readTwoDigits (cs.dropWhile fun c => c == ':' || Text.isBlank c)
  if minutes < 60 && hours < 24 then some (hours * 60 + minutes, cs) else none

/-- Reads the offset from UTC in minutes. -/
def readOffset (cs : List Char) : Option (Int × List Char) :=
  match cs with
  | a :: b :: c :: rest =>
      if a.toUpper = 'U' ∧ b.toUpper = 'T' ∧ c.toUpper = 'C' then some (0, rest)
      else signed cs
  | _ => signed cs
where
  /-- `Z`, or a sign and the minutes. -/
  signed : List Char → Option (Int × List Char)
    | 'Z' :: rest | 'z' :: rest => some (0, rest)
    | '+' :: rest => (readOffsetMinutes rest).map fun (n, rest) => ((n : Int), rest)
    | '-' :: rest | '\u2212' :: rest =>
        (readOffsetMinutes rest).map fun (n, rest) => (-(n : Int), rest)
    | _ => none

/-- The moment at which clocks `offset` minutes ahead of UTC show these numbers. -/
def ofLocal? (date : Date) (hour minute second nanos : Nat) (offset : Int) : Option Timestamp := do
  let total : Int := (hour * 60 + minute : Nat) - offset
  let date ← date.shift? (total / 1440)
  let rest := (total % 1440).toNat
  if h : rest / 60 < 24 ∧ rest % 60 < 60 ∧ second ≤ 60 ∧ nanos < 1000000000 then
    some ⟨date, rest / 60, rest % 60, second, nanos, h⟩
  else none

/-- Reads a timestamp from a list of characters. -/
def readChars? (cs : List Char) : Option Timestamp := do
  let (year, cs) ← readYear cs
  let cs ← readMark '-' cs
  let (month, cs) ← readNumber 2 cs
  let cs ← readMark '-' cs
  let (day, cs) ← readNumber 2 cs
  let cs ← readDivider cs
  let (hour, cs) ← readNumber 2 cs
  let cs ← readMark ':' cs
  let (minute, cs) ← readNumber 2 cs
  let cs ← readMark ':' cs
  let (second, cs) ← readNumber 2 cs
  let (nanos, cs) ← readFraction cs
  let (offset, cs) ← readOffset (skipBlanks cs)
  guard (skipBlanks cs).isEmpty
  guard (hour < 24 && minute < 60)
  let date ← Date.of? year month day
  ofLocal? date hour minute second nanos offset

/-- Reads a timestamp. -/
def read? (s : String) : Option Timestamp := readChars? s.toList

end Timestamp

end MigrationLedger
