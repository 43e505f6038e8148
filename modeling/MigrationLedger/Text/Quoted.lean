import MigrationLedger.Text.Visible

/-!
# Quoted texts

How a text is shown to a reader in a message: between double quotes, on one line,
with every character visible.  Quotes, backslashes and the usual controls have short
escapes, and the other characters that are not visible by themselves are written as
their code points.

## Main definitions

* `showChar` — a character as it is shown.
* `quoted` — a text between quotes.
-/

namespace MigrationLedger.Text

/-- The code point of a character, between braces. -/
def codePoint (c : Char) : List Char :=
  ['\\', 'u', '\x7b'] ++ Nat.toDigits 16 c.toNat ++ ['\x7d']

/-- A character as shown between quotes. -/
def showChar (c : Char) : List Char :=
  if c = '"' then ['\\', '"']
  else if c = '\\' then ['\\', '\\']
  else if c = '\n' then ['\\', 'n']
  else if c = '\r' then ['\\', 'r']
  else if c = '\t' then ['\\', 't']
  else if c = '\x00' then ['\\', '0']
  else if isVisible c then [c]
  else codePoint c

/-- A text between quotes. -/
def quoted (s : String) : String :=
  String.ofList ('"' :: s.toList.flatMap showChar ++ ['"'])

@[simp] theorem toList_quoted (s : String) :
    (quoted s).toList = '"' :: s.toList.flatMap showChar ++ ['"'] := by
  simp [quoted]

end MigrationLedger.Text
