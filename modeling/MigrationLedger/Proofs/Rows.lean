import Mathlib.Data.List.Nodup
import MigrationLedger.Proofs.Sorting
import MigrationLedger.Snapshot

/-!
# Rows of distinct ranks

A ledger whose ranks are distinct holds its rows in strictly ascending order, so that
a row is known by its rank, however the rows are handed out.  Which row is the newest
of its key, and which keys are live, is then a matter of ranks alone.

## Main definitions

* `DistinctRanks`, `StrictlyAscending` — no two rows share a rank; the rows ascend.
* `IsNewestRow rows k r` — `r` has the greatest rank among the rows of the key `k`.

## Main results

* `sortByRank_eq_of_perm` — rows handed out in any order are put in ascending order.
* `newestRow?_eq_some_iff` — the newest row of a key is the one of the greatest rank.
* `isLive_eq_true_iff` — a key is live when its row of the greatest rank is no tombstone.
-/

namespace MigrationLedger

/-- No two rows have the same rank. -/
def DistinctRanks (rows : List AppliedMigration) : Prop :=
  (rows.map AppliedMigration.installedRank).Nodup

instance (rows : List AppliedMigration) : Decidable (DistinctRanks rows) :=
  inferInstanceAs (Decidable (List.Nodup _))

/-- Every row has a smaller rank than the rows behind it. -/
def StrictlyAscending (rows : List AppliedMigration) : Prop :=
  rows.Pairwise fun a b => a.installedRank < b.installedRank

theorem AppliedMigration.compareRank_eq_lt_iff {a b : AppliedMigration} :
    compareRank a b = .lt ↔ a.installedRank < b.installedRank :=
  Std.compare_eq_lt

theorem AppliedMigration.isLE_compareRank_iff {a b : AppliedMigration} :
    (compareRank a b).isLE = true ↔ a.installedRank ≤ b.installedRank :=
  Std.isLE_compare

/-- The rows of a ledger with distinct ranks ascend strictly. -/
theorem Ledger.strictlyAscending {l : Ledger} (h : DistinctRanks l.rows) :
    StrictlyAscending l.rows := by
  refine (l.ascending.and (List.pairwise_map.1 h)).imp fun {a b} hab => ?_
  exact Int32.lt_of_le_of_ne (AppliedMigration.isLE_compareRank_iff.1 hab.1) hab.2

namespace StrictlyAscending

variable {rows : List AppliedMigration}

theorem distinctRanks (h : StrictlyAscending rows) : DistinctRanks rows := by
  refine List.pairwise_map.2 (h.imp fun {a b} hab heq => ?_)
  rw [heq] at hab
  exact Int32.lt_irrefl hab

theorem sublist {some : List AppliedMigration} (h : StrictlyAscending rows)
    (hs : some.Sublist rows) : StrictlyAscending some :=
  List.Pairwise.sublist hs h

theorem nodup (h : StrictlyAscending rows) : rows.Nodup :=
  List.Nodup.of_map _ h.distinctRanks

/-- A row is known by its rank. -/
theorem eq_of_rank_eq (h : StrictlyAscending rows) {a b : AppliedMigration} (ha : a ∈ rows)
    (hb : b ∈ rows) (hab : a.installedRank = b.installedRank) : a = b :=
  List.inj_on_of_nodup_map h.distinctRanks ha hb hab

end StrictlyAscending

/-- Rows handed out in any order are put in ascending order. -/
theorem sortByRank_eq_of_perm {rows handed : List AppliedMigration}
    (h : StrictlyAscending rows) (hp : handed.Perm rows) : sortByRank handed = rows :=
  sortBy_eq_of_perm (h.imp AppliedMigration.compareRank_eq_lt_iff.2) hp

/-- Rows of distinct ranks ascend once they are sorted. -/
theorem strictlyAscending_sortByRank {rows : List AppliedMigration} (h : DistinctRanks rows) :
    StrictlyAscending (sortByRank rows) :=
  Ledger.strictlyAscending (l := Ledger.ofRows rows)
    (((sortBy_perm _ rows).map AppliedMigration.installedRank).nodup_iff.2 h)

/-! ### The newest row of a key -/

/-- The row has the greatest rank among the rows of the key. -/
structure IsNewestRow (rows : List AppliedMigration) (k : Key) (r : AppliedMigration) :
    Prop where
  /-- The row is one of the rows. -/
  mem : r ∈ rows
  /-- The row has the key. -/
  same_key : r.key.same k = true
  /-- No row of the key has a greater rank. -/
  newest : ∀ q ∈ rows, q.key.same k = true → q.installedRank ≤ r.installedRank

/-- The key of a row has a newest row. -/
theorem exists_newestRow?_eq_some {rows : List AppliedMigration} {r : AppliedMigration}
    (hr : r ∈ rows) : ∃ newest, newestRow? rows r.key = some newest := by
  cases hnewest : newestRow? rows r.key with
  | some newest => exact ⟨newest, rfl⟩
  | none =>
    have hempty := List.getLast?_eq_none_iff.1 hnewest
    have hmem : r ∈ rows.filter fun q => q.key.same r.key :=
      List.mem_filter.2 ⟨hr, Key.same_self _⟩
    exact absurd (hempty ▸ hmem) List.not_mem_nil

/-- The newest row of a key is the one of the greatest rank. -/
theorem newestRow?_eq_some_iff {rows : List AppliedMigration} (h : StrictlyAscending rows)
    {k : Key} {r : AppliedMigration} : newestRow? rows k = some r ↔ IsNewestRow rows k r := by
  have hasc : StrictlyAscending (rows.filter fun q => q.key.same k) := h.sublist List.filter_sublist
  unfold newestRow?
  constructor
  · intro hr
    obtain ⟨front, hfront⟩ := List.getLast?_eq_some_iff.1 hr
    have hmem : r ∈ rows.filter fun q => q.key.same k := by simp [hfront]
    obtain ⟨hrows, hkey⟩ := List.mem_filter.1 hmem
    refine ⟨hrows, hkey, fun q hq hqk => ?_⟩
    -- whatever else has the key stands before the last row, or is that row
    have hqf : q ∈ front ++ [r] := hfront ▸ List.mem_filter.2 ⟨hq, hqk⟩
    rw [hfront] at hasc
    rcases List.mem_append.1 hqf with hqf | hqf
    · exact Int32.le_of_lt ((List.pairwise_append.1 hasc).2.2 q hqf r (by simp))
    · obtain rfl : q = r := by simpa using hqf
      exact Int32.le_refl _
  · intro hr
    have hmem : r ∈ rows.filter fun q => q.key.same k := List.mem_filter.2 ⟨hr.mem, hr.same_key⟩
    cases hl : (rows.filter fun q => q.key.same k).getLast? with
    | none =>
      rw [List.getLast?_eq_none_iff.1 hl] at hmem
      simp at hmem
    | some q =>
      obtain ⟨front, hfront⟩ := List.getLast?_eq_some_iff.1 hl
      have hq : q ∈ rows.filter fun q => q.key.same k := by simp [hfront]
      obtain ⟨hqrows, hqk⟩ := List.mem_filter.1 hq
      rw [hfront] at hasc hmem
      rcases List.mem_append.1 hmem with hrf | hrf
      · -- a row before the last one has a smaller rank, so it is not the newest
        have hlt := (List.pairwise_append.1 hasc).2.2 r hrf q (by simp)
        exact absurd (hr.newest q hqrows hqk) (Int32.not_le.2 hlt)
      · simp_all

/-- A key is live when its row of the greatest rank is no tombstone. -/
theorem isLive_eq_true_iff {rows : List AppliedMigration} (h : StrictlyAscending rows) {k : Key} :
    isLive rows k = true ↔ ∃ r, IsNewestRow rows k r ∧ r.isTombstone = false := by
  simp [isLive, Option.any_eq_true, newestRow?_eq_some_iff h]

/-- A key whose rows are all tombstones is not live. -/
theorem isLive_eq_false_of_tombstones {rows : List AppliedMigration} {k : Key}
    (h : ∀ r ∈ rows, r.key.same k = true → r.isTombstone = true) : isLive rows k = false := by
  unfold isLive
  cases hr : newestRow? rows k with
  | none => rfl
  | some r =>
    obtain ⟨hmem, hkey⟩ := List.mem_filter.1 (List.mem_of_getLast? hr)
    simp [h r hmem hkey]

/-! ### Plain rows

Rows for closed cases: what a run of a script leaves when nothing but the rank, the version,
the script and the checksum matters. -/

namespace Plain

/-- The version `1`. -/
def one : Version := ⟨"1", [.number 1], by decide⟩

/-- The version `2`. -/
def two : Version := ⟨"2", [.number 2], by decide⟩

/-- A moment. -/
def moment : Timestamp := ⟨⟨2024, 1, 1, by decide⟩, 0, 0, 0, 0, by decide⟩

/-- The row of a successful run. -/
def row (rank : Int32) (version : Option Version) (script : String) (checksum : Int32) :
    AppliedMigration where
  installedRank := rank
  version := version
  description := ""
  kind := .core .sql
  script := script
  checksum := some checksum
  installedBy := ""
  installedOn := moment
  executionTime := 0
  success := true

/-- A row that marks earlier rows of its key as removed. -/
def tombstone (rank : Int32) (version : Option Version) (script : String) : AppliedMigration :=
  { row rank version script 0 with kind := .core .delete, checksum := none }

end Plain

end MigrationLedger
