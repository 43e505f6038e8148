import MigrationLedger.Datum

/-!
# The tables of a TOML document

A document names its tables by headers and by dotted keys, in any order.  While it
is read its tables form a tree in which every table remembers how it came about,
because that decides what may still be added to it.

## Main definitions

* `Origin`, `Node` — how a table came about, and the values and tables under a name.
* `DottedKey` — a name and the path to it.
* `insert?` — adds a value under a dotted key.
* `modifyAt?` — changes the table that the path of a header leads to.
* `Node.toDatum` — the datum of a finished tree.

## Main results

* `insert?_fresh` — a new name is added at the end.
-/

namespace MigrationLedger.Toml

/-- How a table came about. -/
inductive Origin
  /-- A header names it. -/
  | header
  /-- It lies on the path of a header. -/
  | implied
  /-- It lies on the path of a dotted key. -/
  | dotted
  deriving DecidableEq, Repr

/-- What stands under a name. -/
inductive Node
  /-- A value, which nothing can be added to. -/
  | value (d : Datum)
  /-- A table and its members. -/
  | table (origin : Origin) (members : List (String × Node))
  /-- Several tables under one name, each with its members. -/
  | tables (elements : List (List (String × Node)))

/-- The members of a table in order. -/
abbrev Members : Type := List (String × Node)

/-- A name and the path to it. -/
structure DottedKey where
  /-- The names of the tables around it. -/
  path : List String
  /-- The name. -/
  name : String
  deriving DecidableEq, Repr

namespace Members

/-- What stands under a name. -/
def get? (ms : Members) (name : String) : Option Node := ms.lookup name

/-- The members with something else under a name that is there. -/
def replace (ms : Members) (name : String) (n : Node) : Members :=
  ms.map fun m => if m.1 == name then (name, n) else m

/-- The members without a name. -/
def erase (ms : Members) (name : String) : Members := ms.filter fun m => m.1 != name

/-- The members with a new name at the end, unless it is taken. -/
def add? (ms : Members) (name : String) (n : Node) : Option Members :=
  match ms.get? name with
  | some _ => none
  | none => some (ms ++ [(name, n)])

end Members

/-- Changes the last of several tables. -/
def modifyLast? (f : Members → Option Members) : List Members → Option (List Members)
  | [] => none
  | [ms] => (f ms).map fun ms => [ms]
  | ms :: rest => (modifyLast? f rest).map (ms :: ·)

/-- Adds a value under a name at the end of a path.  The path leads through tables that no
header names, and its last table came about by dotted keys. -/
def insertAt? : List String → String → Datum → Members → Option Members
  | [], name, d, ms => ms.add? name (.value d)
  | step :: path, name, d, ms =>
    match ms.get? step with
    | none => (insertAt? path name d []).map fun sub => ms ++ [(step, .table .dotted sub)]
    | some (.table origin sub) =>
      -- the path may lead through an implied table, but a value must not end up in one
      if origin = .header ∨ (path = [] ∧ origin ≠ .dotted) then none
      else (insertAt? path name d sub).map fun sub => ms.replace step (.table origin sub)
    | some (.tables elements) =>
      if path = [] then none
      else (modifyLast? (insertAt? path name d) elements).map fun elements =>
        ms.replace step (.tables elements)
    | some (.value _) => none

/-- Adds a value under a dotted key. -/
def insert? (ms : Members) (k : DottedKey) (d : Datum) : Option Members :=
  insertAt? k.path k.name d ms

/-- Adds values under dotted keys, one after the other. -/
def insertAll? (ms : Members) (entries : List (DottedKey × Datum)) : Option Members :=
  entries.foldlM (fun ms e => insert? ms e.1 e.2) ms

/-- Changes the table at the end of the path of a header.  Tables that are missing on the path
come about; of several tables under one name the path leads to the last. -/
def modifyAt? (f : Members → Option Members) : List String → Members → Option Members
  | [], ms => f ms
  | step :: path, ms =>
    match ms.get? step with
    | none => (modifyAt? f path []).map fun sub => ms ++ [(step, .table .implied sub)]
    | some (.table origin sub) =>
      (modifyAt? f path sub).map fun sub => ms.replace step (.table origin sub)
    | some (.tables elements) =>
      (modifyLast? (modifyAt? f path) elements).map fun elements =>
        ms.replace step (.tables elements)
    | some (.value _) => none

/-- A new name is added at the end. -/
theorem insert?_fresh {ms : Members} {name : String} (d : Datum) (h : ms.get? name = none) :
    insert? ms ⟨[], name⟩ d = some (ms ++ [(name, .value d)]) := by
  simp [insert?, insertAt?, Members.add?, h]

/-! ### The datum of a tree -/

mutual

/-- The datum of what stands under a name. -/
def Node.toDatum : Node → Datum
  | .value d => d
  | .table _ ms => .map (membersToData ms)
  | .tables elements => .list (elementsToData elements)

/-- The data of the members of a table. -/
def membersToData : List (String × Node) → List (String × Datum)
  | [] => []
  | (name, n) :: ms => (name, n.toDatum) :: membersToData ms

/-- The data of several tables. -/
def elementsToData : List (List (String × Node)) → List Datum
  | [] => []
  | ms :: rest => .map (membersToData ms) :: elementsToData rest

end

end MigrationLedger.Toml
