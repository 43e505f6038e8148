import MigrationLedger.Json.Text

/-!
# TOML lines and strings

The characters of a TOML document, what may stand between its parts, and its four
kinds of strings.  No reader of this notation tells what is wrong: a document is
read as a whole or not at all.

## Main definitions

* `skipSpace`, `skipFiller`, `endLine?` — what stands between the parts of a document.
* `readOneLine`, `readString` — strings of one line, and of any kind.
-/

namespace MigrationLedger.Toml

/-! ### Space, comments and line ends -/

/-- The characters that may stand between the parts of a line. -/
def isSpace (c : Char) : Bool := c == ' ' || c == '\t'

/-- A text without its leading space. -/
def skipSpace (cs : List Char) : List Char := cs.dropWhile isSpace

/-- The characters that may stand in comments and in strings: all but the controls, of which
the tab alone is allowed. -/
def isAllowed (c : Char) : Bool := c == '\t' || (' ' ≤ c && c != '\x7f')

/-- Skips a line end, which is a line feed with or without a carriage return before it. -/
def skipNewline? : List Char → Option (List Char)
  | '\n' :: cs => some cs
  | '\r' :: '\n' :: cs => some cs
  | _ => none

/-- A text without a leading comment. -/
def skipComment : List Char → List Char
  | '#' :: cs => cs.dropWhile isAllowed
  | cs => cs

/-- Skips the rest of a line that holds nothing more than a comment. -/
def endLine? (cs : List Char) : Option (List Char) :=
  match skipComment (skipSpace cs) with
  | [] => some []
  | cs => skipNewline? cs

/-- A text without leading space and line ends. -/
def skipBlankLines : List Char → List Char
  | '\r' :: '\n' :: cs => skipBlankLines cs
  | c :: cs => if isSpace c || c == '\n' then skipBlankLines cs else c :: cs
  | [] => []

/-- Skips space, line ends and comments, within a comment or outside of one. -/
def skipFillerFrom : Bool → List Char → List Char
  | _, '\r' :: '\n' :: cs => skipFillerFrom false cs
  | _, '\n' :: cs => skipFillerFrom false cs
  | true, c :: cs => if isAllowed c then skipFillerFrom true cs else c :: cs
  | false, c :: cs =>
    if c = '#' then skipFillerFrom true cs
    else if isSpace c then skipFillerFrom false cs
    else c :: cs
  | _, [] => []

/-- A text without leading space, line ends and comments. -/
def skipFiller (cs : List Char) : List Char := skipFillerFrom false cs

/-! ### Escapes -/

/-- The character of an escape of one letter. -/
def ofEscape? : Char → Option Char
  | '"' => some '"'
  | '\\' => some '\\'
  | 'b' => some '\x08'
  | 'f' => some '\x0c'
  | 'n' => some '\n'
  | 'r' => some '\r'
  | 't' => some '\t'
  | _ => none

/-- The value of hexadecimal digits. -/
def hexNumber? (cs : List Char) : Option Nat :=
  cs.foldlM (fun n c => (Json.hexValue? c).map (n * 16 + ·)) 0

/-- Reads a character given by `count` hexadecimal digits of its code point. -/
def readCodePoint (count : Nat) (cs : List Char) : Option (Char × List Char) := do
  let n ← hexNumber? (cs.take count)
  if count ≤ cs.length ∧ n.isValidChar then some (Char.ofNat n, cs.drop count) else none

/-- Reads an escape after its backslash. -/
def readEscape : List Char → Option (Char × List Char)
  | 'u' :: cs => readCodePoint 4 cs
  | 'U' :: cs => readCodePoint 8 cs
  | c :: cs => (ofEscape? c).map fun d => (d, cs)
  | [] => none

/-! ### Strings of one line -/

/-- Reads the rest of a string with escapes after its quote, in at most `fuel` characters. -/
def readBasicBody : Nat → List Char → Option (List Char × List Char)
  | 0, _ => none
  | _ + 1, [] => none
  | fuel + 1, c :: cs =>
    if c = '"' then some ([], cs)
    else if c = '\\' then do
      let (d, cs) ← readEscape cs
      let (ds, cs) ← readBasicBody fuel cs
      some (d :: ds, cs)
    else if isAllowed c then (readBasicBody fuel cs).map fun (ds, cs) => (c :: ds, cs)
    else none

/-- Reads the rest of a string without escapes after its quote. -/
def readLiteralBody : List Char → Option (List Char × List Char)
  | [] => none
  | c :: cs =>
    if c = '\'' then some ([], cs)
    else if isAllowed c then (readLiteralBody cs).map fun (ds, cs) => (c :: ds, cs)
    else none

/-- Reads a string of one line. -/
def readOneLine : List Char → Option (String × List Char)
  | '"' :: cs =>
      (readBasicBody (cs.length + 1) cs).map fun (ds, cs) => (String.ofList ds, cs)
  | '\'' :: cs => (readLiteralBody cs).map fun (ds, cs) => (String.ofList ds, cs)
  | _ => none

/-! ### Strings of several lines -/

/-- Reads what follows the three quotes that end a string: up to two more quotes stand before
them and belong to the string. -/
def closeBlock (quote : Char) (cs : List Char) : Option (List Char × List Char) :=
  let extra := cs.takeWhile (· == quote)
  if extra.length ≤ 2 then some (extra, cs.dropWhile (· == quote)) else none

/-- Reads the rest of a string of several lines after its quotes, in at most `fuel` steps.  In
the one kind backslashes escape, and one at the end of a line joins it to the next text. -/
def readBlockBody (quote : Char) (escapes : Bool) : Nat → List Char →
    Option (List Char × List Char)
  | 0, _ => none
  | _ + 1, [] => none
  | fuel + 1, c :: cs =>
    if c = quote ∧ cs.take 2 = [quote, quote] then closeBlock quote (cs.drop 2)
    -- one or two quotes stand for themselves, like any other character
    else if c = '\\' ∧ escapes then
      match skipNewline? (skipSpace cs) with
      | some rest => readBlockBody quote escapes fuel (skipBlankLines rest)
      | none => do
        let (d, cs) ← readEscape cs
        let (ds, cs) ← readBlockBody quote escapes fuel cs
        some (d :: ds, cs)
    else
      match skipNewline? (c :: cs) with
      | some rest => (readBlockBody quote escapes fuel rest).map fun (ds, cs) => ('\n' :: ds, cs)
      | none =>
        if isAllowed c then
          (readBlockBody quote escapes fuel cs).map fun (ds, cs) => (c :: ds, cs)
        else none

/-- Reads the rest of a string of several lines after its quotes.  A line end that follows the
quotes at once does not belong to the string. -/
def readBlock (quote : Char) (escapes : Bool) (cs : List Char) : Option (String × List Char) :=
  (readBlockBody quote escapes (cs.length + 1) ((skipNewline? cs).getD cs)).map fun (ds, cs) =>
    (String.ofList ds, cs)

/-- Reads a string. -/
def readString : List Char → Option (String × List Char)
  | '"' :: '"' :: '"' :: cs => readBlock '"' true cs
  | '\'' :: '\'' :: '\'' :: cs => readBlock '\'' false cs
  | cs => readOneLine cs

end MigrationLedger.Toml
