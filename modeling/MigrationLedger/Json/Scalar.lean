import MigrationLedger.Double
import MigrationLedger.Json.Text

/-!
# JSON scalars

Readers for the values of a ledger row, each told what type of value is wanted.  A
value of another type is a mismatch, but only after the whole value was read: a
number or a string that is broken, or that ends with the text, is that fault
instead.

## Main definitions

* `readNumber` — a number; one too large for double precision is malformed.
* `readInteger`, `readText`, `readBool`, `readOptional` — readers for one wanted type.
* `wrongType` — the fault of a value that has another type than the wanted one.
* `skipValue` — skips a value of any type.
-/

namespace MigrationLedger.Json

/-- The characters that may stand between the parts of a document. -/
def isSpace (c : Char) : Bool := c == ' ' || c == '\n' || c == '\t' || c == '\r'

/-- A text without its leading space. -/
def skipSpace (cs : List Char) : List Char := cs.dropWhile isSpace

/-- Reads the characters `word`. -/
def readWord : List Char → List Char → Except RowFault (List Char)
  | [], cs => .ok cs
  | _ :: _, [] => .error .truncated
  | w :: word, c :: cs => if c = w then readWord word cs else .error .malformed

/-! ### Numbers -/

/-- The written form of an integer. -/
def writeInt : Int → List Char
  | .ofNat n => Nat.toDigits 10 n
  | .negSucc n => '-' :: Nat.toDigits 10 (n + 1)

/-- Appends digits to a significand as long as it fits 64 bits, and yields the digits left. -/
def appendDigits : Nat → List Char → Nat × List Char
  | n, [] => (n, [])
  | n, c :: cs =>
    if 10 * n + (c.toNat - '0'.toNat) < Nat.pow 2 64 then
      appendDigits (10 * n + (c.toNat - '0'.toNat)) cs
    else (n, c :: cs)

/-- A significand stays within 64 bits. -/
theorem appendDigits_lt {n : Nat} (h : n < Nat.pow 2 64) (cs : List Char) :
    (appendDigits n cs).1 < Nat.pow 2 64 := by
  induction cs generalizing n with
  | nil => exact h
  | cons c cs ih =>
    rw [appendDigits]
    split
    · next hfits => exact ih hfits
    · exact h

/-- What counts of a number: its leading digits, and the power of ten of the last of them.  Whole
digits that do not fit are zeros, and the digits of the fraction from the first that does not fit
on are left out. -/
def significand (whole fraction : List Char) (exponent : Int) : Nat × Int :=
  let (n, zeros) := appendDigits 0 whole
  let (m, dropped) := appendDigits n fraction
  (m, exponent + zeros.length - (fraction.length - dropped.length : Nat))

/-- The product of `m` and the power of ten, each in double precision, is too large. -/
def exceedsDouble (m : Nat) (e : Int) : Bool :=
  m != 0 && 0 ≤ e && (308 < e || (do
    Double.mul? (← Double.nearest? m 1) (← Double.nearest? (Nat.pow 10 e.toNat) 1)).isNone)

/-- Reads an optional exponent. -/
def readExponent : List Char → Except RowFault (Option Int × List Char)
  | 'e' :: cs | 'E' :: cs =>
      let (negative, cs) :=
        match cs with
        | '+' :: cs => (false, cs)
        | '-' :: cs => (true, cs)
        | cs => (false, cs)
      let ds := cs.takeWhile Char.isDigit
      if ds.isEmpty then .error (if cs.isEmpty then .truncated else .malformed)
      else
        let n : Int := Nat.ofDigitChars 10 ds 0
        .ok (some (if negative then -n else n), cs.dropWhile Char.isDigit)
  | cs => .ok (none, cs)

/-- Reads an optional fraction; none of its digits may be missing. -/
def readFraction : List Char → Except RowFault (Option (List Char) × List Char)
  | '.' :: cs =>
      let ds := cs.takeWhile Char.isDigit
      if ds.isEmpty then .error (if cs.isEmpty then .truncated else .malformed)
      else .ok (some ds, cs.dropWhile Char.isDigit)
  | cs => .ok (none, cs)

/-- Reads a number: its value where it is an integer other than `-0`.  A number too large for
double precision is malformed. -/
def readNumber (cs : List Char) : Except RowFault (Option Int × List Char) := do
  let (negative, cs) :=
    match cs with
    | '-' :: cs => (true, cs)
    | cs => (false, cs)
  let ds := cs.takeWhile Char.isDigit
  if ds.isEmpty then
    throw (if cs.isEmpty then .truncated else .malformed)
  if ds.head? = some '0' ∧ 1 < ds.length then
    throw .malformed
  let (fraction, cs) ← readFraction (cs.dropWhile Char.isDigit)
  let (exponent, cs) ← readExponent cs
  let (leading, e) := significand ds (fraction.getD []) (exponent.getD 0)
  if exceedsDouble leading e then
    throw .malformed
  let m := Nat.ofDigitChars 10 ds 0
  if fraction.isSome || exponent.isSome || (negative && m == 0) then
    return (none, cs)
  return (some (if negative then -(m : Int) else m), cs)

/-- Skips a number; whatever is wrong with it, it is malformed. -/
def skipNumber (cs : List Char) : Except RowFault (List Char) := do
  let cs :=
    match cs with
    | '-' :: cs => cs
    | cs => cs
  let ds := cs.takeWhile Char.isDigit
  if ds.isEmpty || (ds.head? == some '0' && 1 < ds.length) then
    throw .malformed
  match readFraction (cs.dropWhile Char.isDigit) with
  | .error _ => throw .malformed
  | .ok (_, cs) =>
    match readExponent cs with
    | .error _ => throw .malformed
    | .ok (_, cs) => return cs

/-! ### Values of a wanted type -/

/-- The fault of a value, read in full, that has another type than the wanted one. -/
def wrongType : List Char → RowFault
  | [] => .truncated
  | 'n' :: cs => fault (readWord ['u', 'l', 'l'] cs)
  | 't' :: cs => fault (readWord ['r', 'u', 'e'] cs)
  | 'f' :: cs => fault (readWord ['a', 'l', 's', 'e'] cs)
  | '"' :: cs => fault (readString cs)
  | '[' :: _ | '\x7b' :: _ => .mismatch
  | c :: cs => if c = '-' || c.isDigit then fault (readNumber (c :: cs)) else .malformed
where
  /-- A value that was read is a mismatch. -/
  fault {α : Type} : Except RowFault α → RowFault
    | .ok _ => .mismatch
    | .error e => e

/-- Reads an integer between `low` and `high`. -/
def readInteger (low high : Int) (cs : List Char) : Except RowFault (Int × List Char) :=
  match skipSpace cs with
  | [] => .error .truncated
  | c :: cs =>
    if c = '-' || c.isDigit then
      match readNumber (c :: cs) with
      | .error e => .error e
      | .ok (some n, rest) => if low ≤ n ∧ n ≤ high then .ok (n, rest) else .error .mismatch
      | .ok (none, _) => .error .mismatch
    else .error (wrongType (c :: cs))

/-- Reads a text. -/
def readText (cs : List Char) : Except RowFault (String × List Char) :=
  match skipSpace cs with
  | '"' :: cs => readString cs
  | cs => .error (wrongType cs)

/-- Reads a truth value. -/
def readBool (cs : List Char) : Except RowFault (Bool × List Char) :=
  match skipSpace cs with
  | 't' :: cs => (readWord ['r', 'u', 'e'] cs).map (true, ·)
  | 'f' :: cs => (readWord ['a', 'l', 's', 'e'] cs).map (false, ·)
  | cs => .error (wrongType cs)

/-- Reads `null`, or a value. -/
def readOptional {α : Type} (read : List Char → Except RowFault (α × List Char))
    (cs : List Char) : Except RowFault (Option α × List Char) :=
  match skipSpace cs with
  | 'n' :: cs => (readWord ['u', 'l', 'l'] cs).map (none, ·)
  | cs => (read cs).map fun (a, rest) => (some a, rest)

/-! ### Values of any type -/

/-- What is open around the current position. -/
inductive Bracket
  /-- A list. -/
  | list
  /-- An object. -/
  | object
  deriving DecidableEq, Repr

/-- What may follow at a position inside a value that is skipped. -/
inductive Expect
  /-- A value. -/
  | value
  /-- The first element of the innermost bracket, or its end. -/
  | first
  /-- A comma, or the end of the innermost bracket. -/
  | next
  deriving DecidableEq, Repr

/-- Skips the key of a member and its colon. -/
def skipKey (cs : List Char) : Except RowFault (List Char) :=
  match skipSpace cs with
  | '"' :: cs => do
      match skipSpace (← skipString cs) with
      | ':' :: cs => .ok cs
      | [] => .error .truncated
      | _ => .error .malformed
  | [] => .error .truncated
  | _ => .error .malformed

/-- Skips the start of an element of a bracket: for a member of an object its key. -/
def skipElementStart : Bracket → List Char → Except RowFault (List Char)
  | .list, cs => .ok cs
  | .object, cs => skipKey cs

/-- Skips a value without open brackets. -/
def skipScalar : List Char → Except RowFault (List Char)
  | [] => .error .truncated
  | 'n' :: cs => readWord ['u', 'l', 'l'] cs
  | 't' :: cs => readWord ['r', 'u', 'e'] cs
  | 'f' :: cs => readWord ['a', 'l', 's', 'e'] cs
  | '"' :: cs => skipString cs
  | c :: cs => if c = '-' || c.isDigit then skipNumber (c :: cs) else .error .malformed

/-- Skips the rest of a value in at most `fuel` steps, with the brackets around the position,
the innermost one first. -/
def skipSteps : Nat → Expect → List Bracket → List Char → Except RowFault (List Char)
  | 0, _, _, _ => .error .truncated
  | fuel + 1, .value, open_, cs =>
    match skipSpace cs with
    | '[' :: cs => skipSteps fuel .first (.list :: open_) cs
    | '\x7b' :: cs => skipSteps fuel .first (.object :: open_) cs
    | cs => do skipSteps fuel .next open_ (← skipScalar cs)
  | _ + 1, _, [], cs => .ok cs
  | fuel + 1, expect, b :: open_, cs =>
    match b, skipSpace cs with
    | _, [] => .error .truncated
    | .list, ']' :: cs => skipSteps fuel .next open_ cs
    | .object, '\x7d' :: cs => skipSteps fuel .next open_ cs
    | b, c :: cs =>
      if expect = .first then do
        skipSteps fuel .value (b :: open_) (← skipElementStart b (c :: cs))
      else if c = ',' then do skipSteps fuel .value (b :: open_) (← skipElementStart b cs)
      else .error .malformed

/-- Skips a value. -/
def skipValue (cs : List Char) : Except RowFault (List Char) :=
  skipSteps (2 * cs.length + 2) .value [] cs

end MigrationLedger.Json
