import MigrationLedger.Toml.Value

/-!
# TOML documents

A document is a sequence of lines: entries, headers of tables, and lines without
content.  The entries after a header belong to its table, and those before the first
header to the document itself.

## Main definitions

* `Line`, `Header` — the lines of a document.
* `Segment`, `split` — a header and its entries, and the segments of a list of lines.
* `Segment.place?` — adds a segment to the tree.
* `readDocument` — the datum of a document, if the text is one.

## Main results

* `split_entries` — without a header all entries belong to the document itself.
-/

namespace MigrationLedger.Toml

/-- A header of a table. -/
inductive Header
  /-- The table of a key. -/
  | table (key : DottedKey)
  /-- A further one of the tables of a key. -/
  | element (key : DottedKey)
  deriving DecidableEq, Repr

/-- A line of a document. -/
inductive Line
  /-- No content, or only a comment. -/
  | blank
  /-- A value under a dotted key. -/
  | entry (key : DottedKey) (value : Datum)
  /-- The header of a table. -/
  | header (h : Header)

/-! ### Lines -/

/-- Reads the characters `marks`. -/
def readMarks : List Char → List Char → Option (List Char)
  | [], cs => some cs
  | _ :: _, [] => none
  | m :: marks, c :: cs => if c = m then readMarks marks cs else none

/-- Reads a header after its brackets, up to the end of its line. -/
def readHeader (closing : List Char) (make : DottedKey → Header) (cs : List Char) :
    Option (Line × List Char) := do
  let (k, cs) ← readKey cs
  let cs ← readMarks closing cs
  let cs ← endLine? cs
  some (.header (make k), cs)

/-- Reads an entry up to the end of its line. -/
def readEntryLine (cs : List Char) : Option (Line × List Char) := do
  let ((k, d), cs) ← readEntry readValue cs
  let cs ← endLine? cs
  some (.entry k d, cs)

/-- Reads a line. -/
def readLine (cs : List Char) : Option (Line × List Char) :=
  match skipSpace cs with
  | '[' :: '[' :: cs => readHeader [']', ']'] .element cs
  | '[' :: cs => readHeader [']'] .table cs
  | cs =>
    -- an empty line ends at once, and so does one that holds a comment alone
    match endLine? cs with
    | some cs => some (.blank, cs)
    | none => readEntryLine cs

/-- Reads lines up to the end of the text, at most `fuel` of them. -/
def readLines : Nat → List Char → Option (List Line)
  | 0, _ => none
  | _ + 1, [] => some []
  | fuel + 1, cs => do
    let (line, cs) ← readLine cs
    let lines ← readLines fuel cs
    some (line :: lines)

/-! ### Segments -/

/-- A header and its entries. -/
structure Segment where
  /-- The header. -/
  header : Header
  /-- The entries. -/
  entries : List (DottedKey × Datum)

/-- The entries before the first header, and the segments. -/
def split : List Line → List (DottedKey × Datum) × List Segment
  | [] => ([], [])
  | .blank :: lines => split lines
  | .entry k d :: lines => ((k, d) :: (split lines).1, (split lines).2)
  | .header h :: lines => ([], ⟨h, (split lines).1⟩ :: (split lines).2)

/-- The table that a header opens among the members around it, with what it holds so far, and
the other members.  A table can be opened if headers alone have led through it. -/
def openTable? (ms : Members) (name : String) : Option (Members × Members) :=
  match ms.get? name with
  | none => some ([], ms)
  | some (.table .implied sub) => some (sub, ms.erase name)
  | some _ => none

/-- Adds a further table to those of a name. -/
def appendElement? (ms : Members) (name : String) (element : Members) : Option Members :=
  match ms.get? name with
  | none => some (ms ++ [(name, .tables [element])])
  | some (.tables elements) => some (ms.replace name (.tables (elements ++ [element])))
  | some _ => none

namespace Segment

/-- Adds a segment to the members around its table.  An opened table moves to the end. -/
def placeHere? (entries : List (DottedKey × Datum)) : Header → Members → Option Members
  | .table k, ms => do
    let (sub, others) ← openTable? ms k.name
    let sub ← insertAll? sub entries
    some (others ++ [(k.name, .table .header sub)])
  | .element k, ms => do
    let element ← insertAll? [] entries
    appendElement? ms k.name element

/-- Adds a segment to the tree. -/
def place? (root : Members) (s : Segment) : Option Members :=
  match s.header with
  | .table k | .element k => modifyAt? (placeHere? s.entries s.header) k.path root

end Segment

/-- The tree of a list of lines. -/
def treeOf? (lines : List Line) : Option Members := do
  let root ← insertAll? [] (split lines).1
  (split lines).2.foldlM Segment.place? root

/-- Without a header all entries belong to the document itself. -/
theorem split_entries (entries : List (DottedKey × Datum)) :
    split (entries.map fun e => .entry e.1 e.2) = (entries, []) := by
  induction entries with
  | nil => rfl
  | cons e entries ih => simp [split, ih]

/-! ### Documents -/

/-- A text without a leading byte order mark. -/
def skipByteOrderMark : List Char → List Char
  | '\ufeff' :: cs => cs
  | cs => cs

/-- Reads a document from a list of characters. -/
def readChars? (cs : List Char) : Option Datum := do
  let cs := skipByteOrderMark cs
  let lines ← readLines (cs.length + 1) cs
  let root ← treeOf? lines
  some (.map (membersToData root))

/-- The datum of a document, if the text is one. -/
def readDocument (s : String) : Option Datum := readChars? s.toList

end MigrationLedger.Toml
