import MigrationLedger.Error

/-!
# JSON strings

A string is written between quotes.  Quotes, backslashes and control characters
below the space are escaped, everything else stands as it is.  The reader accepts
every escape of the notation, among them pairs of surrogates for a character
outside the basic plane, and refuses bare control characters and lone surrogates.

## Main definitions

* `writeString` — the written form of a text.
* `readString` — reads the rest of a string after its opening quote.
* `skipString` — the same for a string that nobody looks at: its surrogates need not pair.
-/

namespace MigrationLedger.Json

/-! ### Writing -/

/-- The digit of a number below 16, in lower case. -/
def hexDigit (n : Nat) : Char := Nat.digitChar n

/-- The written form of one character of a string. -/
def escape (c : Char) : List Char :=
  if c = '"' then ['\\', '"']
  else if c = '\\' then ['\\', '\\']
  else if c = '\x08' then ['\\', 'b']
  else if c = '\x0c' then ['\\', 'f']
  else if c = '\n' then ['\\', 'n']
  else if c = '\r' then ['\\', 'r']
  else if c = '\t' then ['\\', 't']
  else if c.toNat < 0x20 then
    ['\\', 'u', '0', '0', hexDigit (c.toNat / 16), hexDigit (c.toNat % 16)]
  else [c]

/-- The written form of a text. -/
def writeString (s : String) : List Char :=
  '"' :: s.toList.flatMap escape ++ ['"']

/-! ### Reading -/

/-- The value of a hexadecimal digit. -/
def hexValue? (c : Char) : Option Nat :=
  if '0' ≤ c ∧ c ≤ '9' then some (c.toNat - '0'.toNat)
  else if 'a' ≤ c ∧ c ≤ 'f' then some (c.toNat - 'a'.toNat + 10)
  else if 'A' ≤ c ∧ c ≤ 'F' then some (c.toNat - 'A'.toNat + 10)
  else none

/-- The value of four hexadecimal digits. -/
def hexValue4? (a b c d : Char) : Option Nat := do
  let a ← hexValue? a
  let b ← hexValue? b
  let c ← hexValue? c
  let d ← hexValue? d
  return ((a * 16 + b) * 16 + c) * 16 + d

/-- Reads four hexadecimal digits.  The text has ended early when fewer than four octets
are left of it. -/
def readHex4 (cs : List Char) : Except RowFault (Nat × List Char) :=
  match cs with
  | a :: b :: c :: d :: rest =>
    match hexValue4? a b c d with
    | some n => .ok (n, rest)
    | none => .error .malformed
  | _ => if (String.ofList cs).utf8ByteSize < 4 then .error .truncated else .error .malformed

/-- The first half of a pair. -/
def isHighSurrogate (n : Nat) : Bool := 0xd800 ≤ n && n ≤ 0xdbff

/-- The second half of a pair. -/
def isLowSurrogate (n : Nat) : Bool := 0xdc00 ≤ n && n ≤ 0xdfff

/-- The character of a pair of surrogates. -/
def ofSurrogates (high low : Nat) : Char :=
  Char.ofNat (0x10000 + (high - 0xd800) * 0x400 + (low - 0xdc00))

/-- Reads the second half of a pair whose first half is `high`. -/
def readLowSurrogate (high : Nat) : List Char → Except RowFault (Char × List Char)
  | '\\' :: 'u' :: cs => do
      let (low, rest) ← readHex4 cs
      if isLowSurrogate low then .ok (ofSurrogates high low, rest) else .error .malformed
  | ['\\'] | [] => .error .truncated
  | _ => .error .malformed

/-- Reads the digits of a `\u` escape, and the escape of the second half where they are
the first half of a pair. -/
def readUnicode (cs : List Char) : Except RowFault (Char × List Char) := do
  let (n, rest) ← readHex4 cs
  if isLowSurrogate n then .error .malformed
  else if isHighSurrogate n then readLowSurrogate n rest
  else .ok (Char.ofNat n, rest)

/-- The character of an escape of one letter. -/
def ofEscape? : Char → Option Char
  | '"' => some '"'
  | '\\' => some '\\'
  | '/' => some '/'
  | 'b' => some '\x08'
  | 'f' => some '\x0c'
  | 'n' => some '\n'
  | 'r' => some '\r'
  | 't' => some '\t'
  | _ => none

/-- Reads an escape after its backslash. -/
def readEscape : List Char → Except RowFault (Char × List Char)
  | [] => .error .truncated
  | 'u' :: cs => readUnicode cs
  | c :: cs =>
    match ofEscape? c with
    | some d => .ok (d, cs)
    | none => .error .malformed

/-- Reads the rest of a string after its opening quote, in at most `fuel` characters. -/
def readStringBody : Nat → List Char → Except RowFault (List Char × List Char)
  | 0, _ => .error .truncated
  | _ + 1, [] => .error .truncated
  | fuel + 1, c :: cs =>
    if c = '"' then .ok ([], cs)
    else if c = '\\' then do
      let (d, rest) ← readEscape cs
      let (ds, rest) ← readStringBody fuel rest
      .ok (d :: ds, rest)
    else if c.toNat < 0x20 then .error .malformed
    else do
      let (ds, rest) ← readStringBody fuel cs
      .ok (c :: ds, rest)

/-- Reads the rest of a string after its opening quote. -/
def readString (cs : List Char) : Except RowFault (String × List Char) := do
  let (text, rest) ← readStringBody (cs.length + 1) cs
  .ok (String.ofList text, rest)

/-- Skips an escape after its backslash. -/
def skipEscape : List Char → Except RowFault (List Char)
  | [] => .error .truncated
  | 'u' :: cs => (readHex4 cs).map Prod.snd
  | c :: cs => if (ofEscape? c).isSome then .ok cs else .error .malformed

/-- Skips the rest of a string after its opening quote, in at most `fuel` characters. -/
def skipStringBody : Nat → List Char → Except RowFault (List Char)
  | 0, _ => .error .truncated
  | _ + 1, [] => .error .truncated
  | fuel + 1, c :: cs =>
    if c = '"' then .ok cs
    else if c = '\\' then do skipStringBody fuel (← skipEscape cs)
    else if c.toNat < 0x20 then .error .malformed
    else skipStringBody fuel cs

/-- Skips the rest of a string after its opening quote. -/
def skipString (cs : List Char) : Except RowFault (List Char) :=
  skipStringBody (cs.length + 1) cs

end MigrationLedger.Json
