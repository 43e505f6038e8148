import MigrationLedger.Sha256

/-!
# Checksums of scripts

A checksum depends on the lines of a script and on nothing else: a byte order mark
at the start, the way lines end and whether the last line ends at all leave no
trace.  The text goes through four steps.  A leading mark is taken off, pairs of
carriage return and line feed become line feeds, then so do the carriage returns
that are left, and a line reader takes the text apart.  Every line is fed to the
digest, with a line feed after it.  A checksum is 32 bits wide, the first word of the
digest.

## Main definitions

* `Checksum.unifyLineEnds` — every line end as a line feed.
* `Checksum.readLines` — the lines of a text as a line reader gives them.
* `Checksum.fed`, `Checksum.fedAll` — the octets whose digest is taken.
* `Checksum.ofPieces` — the checksum of scripts taken together.

## Main results

* `Checksum.fedAll_append` — pieces feed one after the other.
-/

namespace MigrationLedger.Checksum

/-- The text without a leading byte order mark. -/
def dropMark : List Char → List Char
  | '\ufeff' :: cs => cs
  | cs => cs

/-- Every pair of carriage return and line feed as a line feed. -/
def joinPairs : List Char → List Char
  | '\r' :: '\n' :: cs => '\n' :: joinPairs cs
  | c :: cs => c :: joinPairs cs
  | [] => []

/-- A line feed in place of a carriage return. -/
def turnReturn (c : Char) : Char := if c = '\r' then '\n' else c

/-- Every line end as a line feed: first the pairs, then the lone carriage returns. -/
def unifyLineEnds (cs : List Char) : List Char := (joinPairs cs).map turnReturn

/-- Lines with a character before the first one; where there is none, a line of its own. -/
def extendFirst (c : Char) : List (List Char) → List (List Char)
  | [] => [[c]]
  | line :: rest => (c :: line) :: rest

/-- The lines of a text as a line reader gives them: a line ends with a line feed or with a pair
of carriage return and line feed, and nothing is no line. -/
def readLines : List Char → List (List Char)
  | [] => []
  | '\r' :: '\n' :: cs => [] :: readLines cs
  | '\n' :: cs => [] :: readLines cs
  | c :: cs => extendFirst c (readLines cs)

/-- The octets of characters. -/
def encode (cs : List Char) : List UInt8 := cs.flatMap String.utf8EncodeChar

/-- The octets of a line, with a line feed after it. -/
def encodeLine (line : List Char) : List UInt8 := encode line ++ encode ['\n']

/-- The octets of a piece whose digest is taken. -/
def fed (content : String) : List UInt8 :=
  (readLines (unifyLineEnds (dropMark content.toList))).flatMap encodeLine

/-- The octets of several pieces whose digest is taken. -/
def fedAll (contents : List String) : List UInt8 := contents.flatMap fed

/-- The checksum of pieces of content, in order. -/
def ofPieces (contents : List String) : Int32 := (Sha256.digest (fedAll contents)).a.toInt32

/-- The checksum of the content of a script. -/
def ofContent (content : String) : Int32 := ofPieces [content]

@[simp] theorem fedAll_nil : fedAll [] = [] := rfl

theorem fedAll_append (as bs : List String) : fedAll (as ++ bs) = fedAll as ++ fedAll bs := by
  simp [fedAll]

@[simp] theorem fedAll_singleton (content : String) : fedAll [content] = fed content := by
  simp [fedAll]

end MigrationLedger.Checksum
