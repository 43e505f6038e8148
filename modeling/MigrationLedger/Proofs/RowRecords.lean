import MigrationLedger.Proofs.AuditLog
import MigrationLedger.Proofs.JsonIntegers
import MigrationLedger.Proofs.JsonStrings
import MigrationLedger.Proofs.StoredRows
import MigrationLedger.Proofs.TimestampText

/-!
# Reading back the record of a row

The record of a row names its ten members in their order.  The reader keeps a draft of the members
that it has read, and what is written for a member fills just that member of the draft: a value is
read up to the comma or brace behind it, and no member comes twice.  After the last one the draft is
the row.

The audit log keeps such a record of every row that it is told of.  Its kind stands there under the
name that it carries, and its version as text, so the record is the row as it was stored, and where
the name means the kind it loads as the row that was purged.

## Main definitions

* `LedgerRow.draft` — what is known of a row when some of its members have been read.
* `LedgerRow.writeRest` — the members behind the first one, as they are written.

## Main results

* `LedgerRow.readField_writeField` — a written value fills its member of the draft.
* `LedgerRow.readMembers_writeRest` — so do all of them, up to the end of the object.
* `LedgerRow.read_write` — a written row reads back as that row.
* `record_restores_row` — **the record of a purged row loads as that row.**
-/

namespace MigrationLedger

open Json (EndsValue)

namespace LedgerRow

/-! ### Values -/

/-- What a value starts with that is not `null`. -/
def StartsValue (cs : List Char) : Prop :=
  ∃ c ds, cs = c :: ds ∧ Json.isSpace c = false ∧ c ≠ 'n'

theorem startsValue_writeString (s : String) : StartsValue (Json.writeString s) :=
  ⟨'"', _, rfl, rfl, by decide⟩

theorem startsValue_writeInt (i : Int) : StartsValue (Json.writeInt i) := by
  obtain ⟨c, ds, hcons, hstart⟩ := Json.writeInt_eq_cons i
  refine ⟨c, ds, hcons, Json.isSpace_eq_false_of_startsNumber hstart, ?_⟩
  rintro rfl
  revert hstart
  decide

/-- A written option reads back if a written value does, and is not taken for `null`. -/
theorem readOptional_writeOptional {α : Type} {write : α → List Char}
    {read : List Char → Except RowFault (α × List Char)} {rest : List Char} (a : Option α)
    (hread : ∀ a, read (write a ++ rest) = .ok (a, rest)) (hstart : ∀ a, StartsValue (write a)) :
    Json.readOptional read (writeOptional write a ++ rest) = .ok (a, rest) := by
  cases a with
  | none => rfl
  | some a =>
    obtain ⟨c, ds, hcons, hspace, hnull⟩ := hstart a
    have hvalue := hread a
    rw [hcons, List.cons_append] at hvalue
    rw [writeOptional, hcons, List.cons_append, Json.readOptional, Json.skipSpace_cons hspace]
    split
    · next h => exact absurd (List.cons.inj h).1 hnull
    · rw [hvalue]
      rfl

theorem readBool_writeBool (b : Bool) (rest : List Char) :
    Json.readBool (writeBool b ++ rest) = .ok (b, rest) := by
  cases b <;> rfl

theorem readInt32_writeInt {rest : List Char} (hrest : EndsValue rest) (n : Int32) :
    readInt32 (Json.writeInt n.toInt ++ rest) = .ok (n, rest) := by
  have hlow := n.le_toInt
  have hhigh := n.toInt_lt
  rw [readInt32, Json.readInteger_writeInt (by omega) (by omega) (by omega) hrest]
  exact congrArg (fun n => Except.ok (n, rest)) n.ofInt_toInt

theorem readInt64_writeInt {rest : List Char} (hrest : EndsValue rest) (n : Int64) :
    readInt64 (Json.writeInt n.toInt ++ rest) = .ok (n, rest) := by
  have hlow := n.le_toInt
  have hhigh := n.toInt_lt
  rw [readInt64, Json.readInteger_writeInt (by omega) (by omega) (by omega) hrest]
  exact congrArg (fun n => Except.ok (n, rest)) n.ofInt_toInt

theorem readTimestamp_write (t : Timestamp) (rest : List Char) :
    readTimestamp (Json.writeString t.write ++ rest) = .ok (t, rest) := by
  simp only [readTimestamp, Json.readText_writeString, Timestamp.read?_write]

/-! ### Members -/

/-- What is known of the row when the members `done` have been read. -/
def draft (row : LedgerRow) (done : List RowField) : RowDraft where
  installedRank := if .installedRank ∈ done then some row.installedRank else none
  version := if .version ∈ done then some row.version else none
  description := if .description ∈ done then some row.description else none
  kindName := if .kindName ∈ done then some row.kindName else none
  script := if .script ∈ done then some row.script else none
  checksum := if .checksum ∈ done then some row.checksum else none
  installedBy := if .installedBy ∈ done then some row.installedBy else none
  installedOn := if .installedOn ∈ done then some row.installedOn else none
  executionTime := if .executionTime ∈ done then some row.executionTime else none
  success := if .success ∈ done then some row.success else none

variable {row : LedgerRow}

theorem draft_nil (row : LedgerRow) : row.draft [] = {} := rfl

@[simp] theorem has_draft (done : List RowField) (f : RowField) :
    (row.draft done).has f = decide (f ∈ done) := by
  cases f <;> simp only [draft, RowDraft.has] <;> split <;> simp [*]

/-- A draft of all members is the row. -/
theorem finish?_draft {done : List RowField} (h : ∀ f, f ∈ done) :
    (row.draft done).finish? = some row := by
  simp [draft, RowDraft.finish?, h]

@[simp] theorem ofName?_name (f : RowField) : RowField.ofName? f.name = some f := by
  cases f <;> rfl

/-- **A written value fills its member of the draft**, and no other one. -/
theorem readField_writeField {rest : List Char} (hrest : EndsValue rest) (done : List RowField)
    (f : RowField) :
    readField (row.draft done) f (row.writeField f ++ rest)
      = .ok (row.draft (f :: done), rest) := by
  have hversion := readOptional_writeOptional row.version
    (fun s => Json.readText_writeString s rest) startsValue_writeString
  have hchecksum := readOptional_writeOptional row.checksum (readInt32_writeInt hrest)
    fun n => startsValue_writeInt n.toInt
  cases f <;>
    simp [readField, writeField, draft, Except.map, Json.readText_writeString,
      readInt32_writeInt hrest, readInt64_writeInt hrest, readTimestamp_write, readBool_writeBool,
      hversion, hchecksum]

theorem writeMember_append (f : RowField) (rest : List Char) :
    row.writeMember f ++ rest
      = '"' :: (f.name.toList.flatMap Json.escape ++ '"' :: ':' :: (row.writeField f ++ rest)) := by
  rw [writeMember, List.append_assoc, List.cons_append, Json.writeString_append]

/-- A written member fills its member of the draft, if that was not read before. -/
theorem readMember_writeMember {rest : List Char} (hrest : EndsValue rest) {done : List RowField}
    {f : RowField} (hf : f ∉ done) :
    readMember (row.draft done) (f.name.toList.flatMap Json.escape ++
      '"' :: ':' :: (row.writeField f ++ rest)) = .ok (row.draft (f :: done), rest) := by
  have hcolon : ∀ cs, readColon (':' :: cs) = .ok cs := fun _ => rfl
  simp [readMember, Json.readString_writeString, hf, hcolon, readField_writeField hrest, bind,
    Except.bind]

/-! ### Objects -/

/-- The first member is read, and then the others. -/
theorem readMembers_first {rest : List Char} (hrest : EndsValue rest) {done : List RowField}
    {f : RowField} (hf : f ∉ done) (fuel : Nat) :
    readMembers (fuel + 1) true (row.draft done) (row.writeMember f ++ rest)
      = readMembers fuel false (row.draft (f :: done)) rest := by
  have hskip : ∀ cs, Json.skipSpace ('"' :: cs) = '"' :: cs := fun _ => rfl
  rw [writeMember_append, readMembers, hskip]
  simp [readMembers.readQuote, readMember_writeMember hrest hf, bind, Except.bind]

/-- A further member is read behind its comma. -/
theorem readMembers_next {rest : List Char} (hrest : EndsValue rest) {done : List RowField}
    {f : RowField} (hf : f ∉ done) (fuel : Nat) :
    readMembers (fuel + 1) false (row.draft done) (',' :: (row.writeMember f ++ rest))
      = readMembers fuel false (row.draft (f :: done)) rest := by
  have hskip : ∀ cs, Json.skipSpace (',' :: cs) = ',' :: cs := fun _ => rfl
  have hquote : ∀ cs, Json.skipSpace ('"' :: cs) = '"' :: cs := fun _ => rfl
  rw [writeMember_append, readMembers, hskip]
  simp [readMembers.readQuote, hquote, readMember_writeMember hrest hf, bind, Except.bind]

/-- Behind the last member the draft is the row. -/
theorem readMembers_end {done : List RowField} (h : ∀ f, f ∈ done) (fuel : Nat) (first : Bool)
    (rest : List Char) :
    readMembers (fuel + 1) first (row.draft done) ('\x7d' :: rest) = .ok (row, rest) := by
  have hskip : Json.skipSpace ('\x7d' :: rest) = '\x7d' :: rest := rfl
  rw [readMembers, hskip]
  simp only [if_true, finish?_draft h]

/-- The members behind the first one, as they are written. -/
def writeRest (row : LedgerRow) (fs : List RowField) : List Char :=
  fs.flatMap fun f => ',' :: row.writeMember f

theorem endsValue_writeRest (fs : List RowField) (rest : List Char) :
    EndsValue (row.writeRest fs ++ '\x7d' :: rest) := by
  cases fs with
  | nil => exact ⟨'\x7d', rest, rfl, .inr rfl⟩
  | cons f fs => exact ⟨',', _, rfl, .inl rfl⟩

theorem intercalate_writeMember (f : RowField) (fs : List RowField) :
    [','].intercalate ((f :: fs).map row.writeMember) = row.writeMember f ++ row.writeRest fs := by
  induction fs generalizing f with
  | nil => simp [writeRest, List.intercalate_singleton]
  | cons g fs ih =>
    rw [List.map_cons, List.map_cons, List.intercalate_cons_cons, ← List.map_cons, ih]
    simp [writeRest]

theorem length_le_length_writeRest (fs : List RowField) :
    fs.length ≤ (row.writeRest fs).length := by
  induction fs with
  | nil => exact Nat.le_refl _
  | cons f fs ih =>
    simp only [writeRest, List.flatMap_cons, List.length_append, List.length_cons] at ih ⊢
    omega

/-- **The written members fill the draft**, each its own, up to the end of the object. -/
theorem readMembers_writeRest {fs done : List RowField} (hnodup : (fs ++ done).Nodup)
    (hall : ∀ f, f ∈ fs ++ done) {fuel : Nat} (hfuel : fs.length < fuel) (rest : List Char) :
    readMembers fuel false (row.draft done) (row.writeRest fs ++ '\x7d' :: rest)
      = .ok (row, rest) := by
  induction fs generalizing done fuel with
  | nil =>
    obtain ⟨fuel, rfl⟩ := Nat.exists_eq_add_one.2 hfuel
    exact readMembers_end hall fuel false rest
  | cons f fs ih =>
    obtain ⟨fuel, rfl⟩ := Nat.exists_eq_add_one.2 (Nat.zero_lt_of_lt hfuel)
    -- the first of the members to be read joins those that have been read
    have hmoved : (f :: fs ++ done).Perm (fs ++ f :: done) := List.perm_middle.symm
    have hf : f ∉ done := by
      intro hf
      exact (List.nodup_cons.1 hnodup).1 (List.mem_append_right fs hf)
    have hsplit : row.writeRest (f :: fs) ++ '\x7d' :: rest
        = ',' :: (row.writeMember f ++ (row.writeRest fs ++ '\x7d' :: rest)) := by
      simp [writeRest]
    rw [hsplit, readMembers_next (endsValue_writeRest fs rest) hf]
    exact ih (hmoved.nodup hnodup) (fun g => hmoved.subset (hall g)) (Nat.lt_of_succ_lt_succ hfuel)

/-- **A written row reads back as that row.** -/
theorem read_write (row : LedgerRow) : read row.write = .ok row := by
  let fs : List RowField := RowField.all.tail
  have hall : RowField.all = .installedRank :: fs := rfl
  have htext : row.write.toList = '\x7b' ::
      (row.writeMember .installedRank ++ (row.writeRest fs ++ ['\x7d'])) := by
    rw [write, String.toList_ofList, hall, intercalate_writeMember]
    simp
  have hmembers : ∀ fuel, fs.length < fuel → readMembers (fuel + 1) true {}
      (row.writeMember .installedRank ++ (row.writeRest fs ++ ['\x7d'])) = .ok (row, []) := by
    intro fuel hfuel
    rw [← row.draft_nil, readMembers_first (endsValue_writeRest fs []) List.not_mem_nil]
    exact readMembers_writeRest (by decide) (by intro f; cases f <;> decide) hfuel []
  have hlen : fs.length ≤ (row.writeRest fs).length := length_le_length_writeRest fs
  rw [read, htext]
  show (readMembers (_ + 1) true {} _ >>= _) = .ok row
  rw [hmembers]
  · rfl
  · simp only [List.length_append, List.length_cons]
    omega

end LedgerRow

/-! ### Records of purged rows -/

/-- What the audit log is told of was removed. -/
theorem mem_removed_of_mem_events {σ : Type} [LedgerAccess σ]
    {discovered : Except Error (List ResolvedMigration)} {store : σ}
    {settings : MigrationSettings} {e : PurgeEvent}
    (he : e ∈ (reconcile discovered store settings).events) :
    e.row ∈ (reconcile discovered store settings).removed := by
  revert he
  unfold reconcile
  split
  · split
    · exact fun he => absurd he List.not_mem_nil
    · intro he
      rw [purge_eq] at he ⊢
      obtain ⟨row, hrow, rfl⟩ := List.mem_map.1 he
      exact List.mem_of_mem_take hrow
  · exact fun he => absurd he List.not_mem_nil

/-- The record of a row whose kind is found by its name is the row as it was stored. -/
theorem toRow_eq_record {r : Registry} {a : AppliedMigration} {name : String}
    (hname : r.nameOf a.kind = .ok name) : a.toRow r = .ok a.record := by
  refine AppliedMigration.toRow_eq_ok_iff.2 ⟨name, hname, ?_⟩
  rw [Registry.eq_name_of_nameOf hname]
  rfl

/-- **The record of a purged row loads as that row.**  What a pass tells the audit log of a row that
it removed reads back as the row that the ledger stored, whatever its texts, numbers and times are,
and where the name of its kind means that kind, this loads as the row that was purged.  Every stored
row reads back from its own text. -/
theorem record_restores_row {σ : Type} [LedgerAccess σ] (r : Registry) :
    (∀ discovered (store : σ) settings,
      let pass := reconcile discovered store settings
      ∀ e ∈ pass.events, e.row ∈ pass.removed) ∧
    (∀ (e : PurgeEvent) name, r.nameOf e.row.kind = .ok name → r.kindOf name = .ok e.row.kind →
      ∃ stored, e.row.toRow r = .ok stored ∧ LedgerRow.read e.record = .ok stored ∧
        AppliedMigration.ofRow r stored = .ok e.row) ∧
    ∀ row : LedgerRow, LedgerRow.read row.write = .ok row := by
  refine ⟨fun _ _ _ _ he => mem_removed_of_mem_events he, ?_, LedgerRow.read_write⟩
  intro e name hname hkind
  refine ⟨e.row.record, toRow_eq_record hname, LedgerRow.read_write e.row.record, ?_⟩
  rw [Registry.eq_name_of_nameOf hname] at hkind
  exact AppliedMigration.ofRow_rowNamed hkind

/-- A row of a published kind, with quotes and line breaks in its texts. -/
def Plain.unusual : AppliedMigration where
  installedRank := -2147483648
  version := some Plain.two
  description := "\"up\\down\"\n\t\x00 \u2028 𝄞"
  kind := .external (Plain.kind "yaml" "YAML")
  script := "V2__ä \"b\".yaml"
  checksum := some 2147483647
  installedBy := ""
  installedOn := ⟨⟨-44, 3, 15, by decide⟩, 23, 59, 60, 120000000, by decide⟩
  executionTime := -9223372036854775808
  success := false

/-- The view that the pass over the plain ledger purges comes back from the audit log, and a row
comes back whose texts and numbers are out of the ordinary. -/
theorem record_restores_row_history :
    let pass := reconcile (.ok Plain.scripts) Plain.history Plain.settings
    (∃ e ∈ pass.events, e.row ∈ pass.removed ∧
      ∃ stored, LedgerRow.read e.record = .ok stored ∧
        AppliedMigration.ofRow Plain.shadowing stored
          = .ok (Plain.row 4 none "R__view.sql" 29)) ∧
    ∃ stored, LedgerRow.read (PurgeEvent.mk Plain.unusual false).record = .ok stored ∧
      AppliedMigration.ofRow Plain.shadowing stored = .ok Plain.unusual := by
  intro pass
  obtain ⟨hremoved, hrestored, -⟩ := record_restores_row (σ := Ledger) Plain.shadowing
  have hranks : DistinctRanks (LawfulLedger.view Plain.history).rows := by decide
  constructor
  · let told : PurgeEvent := ⟨Plain.row 4 none "R__view.sql" 29, Plain.settings.outOfOrder⟩
    have he : told ∈ pass.events := by
      change _ ∈ (reconcile (.ok Plain.scripts) Plain.history Plain.settings).events
      rw [events_reconcile Plain.scripts Plain.settings hranks, removed_reconcile_history]
      decide
    obtain ⟨stored, -, hstored⟩ := hrestored told "SQL" (by decide) (by decide)
    exact ⟨told, he, hremoved _ _ _ _ he, stored, hstored⟩
  · obtain ⟨stored, -, hstored⟩ := hrestored ⟨Plain.unusual, false⟩ "YAML" (by decide) (by decide)
    exact ⟨stored, hstored⟩

end MigrationLedger
