import MigrationLedger.Datum
import MigrationLedger.Double.Shortest
import MigrationLedger.Json.Text

/-!
# TOML numbers

Integers of 64 bits in four notations, and decimal numbers.  Underscores may stand
between digits.

## Main definitions

* `readDigitRun` — digits with underscores between them.
* `readNumber` — an integer or a decimal number.
-/

namespace MigrationLedger.Toml

/-- Reads further digits; an underscore must stand before a digit. -/
def readMoreDigits (isDigit : Char → Bool) : List Char → Option (List Char × List Char)
  | [] => some ([], [])
  | '_' :: c :: cs =>
    if isDigit c then (readMoreDigits isDigit cs).map fun (ds, rest) => (c :: ds, rest) else none
  | c :: cs =>
    if isDigit c then (readMoreDigits isDigit cs).map fun (ds, rest) => (c :: ds, rest)
    else if c = '_' then none
    else some ([], c :: cs)

/-- Reads digits with underscores between them. -/
def readDigitRun (isDigit : Char → Bool) : List Char → Option (List Char × List Char)
  | c :: cs =>
    if isDigit c then (readMoreDigits isDigit cs).map fun (ds, rest) => (c :: ds, rest) else none
  | [] => none

/-- The value of digits in a base. -/
def digitsValue (base : Nat) (ds : List Char) : Nat :=
  ds.foldl (fun n c => n * base + (Json.hexValue? c).getD 0) 0

/-- An integer of 64 bits. -/
def integer? (n : Int) : Option Datum :=
  if -9223372036854775808 ≤ n ∧ n ≤ 9223372036854775807 then some (.integer n) else none

/-- The digits of a base up to 16. -/
def isDigitOf (base : Nat) (c : Char) : Bool := (Json.hexValue? c).any fun n => n < base

/-- Reads an integer of a base after the mark of the base. -/
def readBased (base : Nat) (cs : List Char) : Option (Datum × List Char) := do
  let (ds, cs) ← readDigitRun (isDigitOf base) cs
  let d ← integer? (digitsValue base ds)
  some (d, cs)

/-- Reads an optional sign. -/
def readSign : List Char → Bool × List Char
  | '-' :: cs => (true, cs)
  | '+' :: cs => (false, cs)
  | cs => (false, cs)

/-- Reads the digits before a point; a leading zero stands alone. -/
def readWhole : List Char → Option (List Char × List Char)
  | '0' :: cs => some (['0'], cs)
  | cs => readDigitRun Char.isDigit cs

/-- Reads an optional fraction. -/
def readFraction : List Char → Option (Option (List Char) × List Char)
  | '.' :: cs => (readDigitRun Char.isDigit cs).map fun (ds, cs) => (some ds, cs)
  | cs => some (none, cs)

/-- Reads an optional exponent. -/
def readExponent : List Char → Option (Option Int × List Char)
  | 'e' :: cs | 'E' :: cs => do
      let (negative, cs) := readSign cs
      let (ds, cs) ← readDigitRun Char.isDigit cs
      let n : Int := digitsValue 10 ds
      some (some (if negative then -n else n), cs)
  | cs => some (none, cs)

/-- The digits of a decimal, with at least one on either side of the point. -/
def positional (d : Decimal) : List Char :=
  let ds := Nat.toDigits 10 d.digits
  let size : Int := ds.length + d.exponent
  if d.digits = 0 then ['0', '.', '0']
  else if 0 ≤ d.exponent then ds ++ List.replicate d.exponent.toNat '0' ++ ['.', '0']
  else if 0 < size then ds.take size.toNat ++ '.' :: ds.drop size.toNat
  else '0' :: '.' :: List.replicate (-size).toNat '0' ++ ds

/-- The decimal number `m * 10 ^ e`, shown by the shortest decimal.  One that is too large is
refused, or infinitely small. -/
def decimal? (negative : Bool) (m : Nat) (e : Int) : Option Datum :=
  match Double.ofDecimal? m e with
  | none => if negative then some (.decimal "-inf") else none
  | some x =>
    let ds := positional x.shortest
    some (.decimal (String.ofList (if negative then '-' :: ds else ds)))

/-- Reads a number after its sign. -/
def readUnsigned (negative : Bool) : List Char → Option (Datum × List Char)
  | 'i' :: 'n' :: 'f' :: cs => some (.decimal (if negative then "-inf" else "inf"), cs)
  | 'n' :: 'a' :: 'n' :: cs => some (.decimal "NaN", cs)
  | cs => do
    let (ds, cs) ← readWhole cs
    let (fraction, cs) ← readFraction cs
    let (exponent, cs) ← readExponent cs
    if fraction.isNone && exponent.isNone then
      let n : Int := digitsValue 10 ds
      let d ← integer? (if negative then -n else n)
      some (d, cs)
    else
      let digits := ds ++ fraction.getD []
      let d ← decimal? negative (digitsValue 10 digits)
        (exponent.getD 0 - (fraction.getD []).length)
      some (d, cs)

/-- Reads a number. -/
def readNumber : List Char → Option (Datum × List Char)
  | '0' :: 'x' :: cs => readBased 16 cs
  | '0' :: 'o' :: cs => readBased 8 cs
  | '0' :: 'b' :: cs => readBased 2 cs
  | cs =>
    let (negative, cs) := readSign cs
    readUnsigned negative cs

end MigrationLedger.Toml
