import Mathlib.Data.List.Forall2
import MigrationLedger.Execution
import MigrationLedger.Proofs.Planning

/-!
# Appending the rows of a run

A run appends a row for each of its migrations, each with the next rank.  While the ranks
do not run past the greatest one there is, no append is refused, and the new rows stand
behind the old ones in the order of the run.

New rows that are no tombstones make their keys live and take nothing back: what was live
or applied before still is.

## Main definitions

* `Ledger.HasRoom` — there are ranks for some more rows.
* `IsRunOf` — the rows are those of a run of the migrations.

## Main results

* `append_of_hasRoom` — a row of the next rank is appended behind all others.
* `appendRun_of_hasRoom` — **a run appends its rows behind all others.**
* `isLive_append`, `IsApplied.append`, `isAppliedVersion_of_append` — what new rows make live
  and applied.
-/

namespace MigrationLedger

/-! ### Room for further ranks -/

instance instLawfulOrderMaxInt32 : Std.LawfulOrderMax Int32 where
  max_eq_or a b := by
    change (if a ≤ b then b else a) = a ∨ (if a ≤ b then b else a) = b
    split
    · exact .inr rfl
    · exact .inl rfl
  max_le_iff a b c := by
    change (if a ≤ b then b else a) ≤ c ↔ a ≤ c ∧ b ≤ c
    split
    · next hab => exact ⟨fun hbc => ⟨Int32.le_trans hab hbc, hbc⟩, And.right⟩
    · next hab =>
      have hba : b ≤ a := Int32.le_of_lt (Int32.not_le.1 hab)
      exact ⟨fun hac => ⟨hac, Int32.le_trans hba hac⟩, And.left⟩

namespace Ledger

/-- The ranks of `n` further rows do not run past the greatest rank there is. -/
def HasRoom (l : Ledger) (n : Nat) : Prop :=
  l.lastRank?.elim 0 Int32.toInt + n ≤ Int32.maxValue.toInt

instance (l : Ledger) (n : Nat) : Decidable (l.HasRoom n) := inferInstanceAs (Decidable (_ ≤ _))

variable {l : Ledger} {n : Nat}

theorem HasRoom.mono {k : Nat} (h : l.HasRoom n) (hk : k ≤ n) : l.HasRoom k := by
  unfold HasRoom at *
  omega

theorem toInt_nextRank (h : l.HasRoom (n + 1)) :
    l.nextRank.toInt = l.lastRank?.elim 0 Int32.toInt + 1 := by
  unfold HasRoom at h
  unfold nextRank
  cases hlast : l.lastRank? with
  | none => rfl
  | some r =>
    simp only [hlast, Option.elim_some] at h ⊢
    have hmin := r.le_toInt
    have hmax : Int32.maxValue.toInt = 2 ^ 31 - 1 := rfl
    have hone : (1 : Int32).toInt = 1 := rfl
    -- the sum is in range, so that it does not wrap around
    rw [Int32.toInt_add, hone, Int.bmod_eq_of_le (by omega) (by omega)]

/-- The next rank is greater than every rank. -/
theorem lt_nextRank (h : l.HasRoom (n + 1)) {r : AppliedMigration} (hr : r ∈ l.rows) :
    r.installedRank < l.nextRank := by
  have hmem : r.installedRank ∈ l.rows.map AppliedMigration.installedRank :=
    List.mem_map_of_mem hr
  rw [Int32.lt_iff_toInt_lt, toInt_nextRank h]
  cases hlast : l.lastRank? with
  | none => simp [List.max?_eq_none_iff.1 hlast] at hmem
  | some last =>
    have hle := (List.max?_eq_some_iff.1 hlast).2 _ hmem
    rw [Int32.le_iff_toInt_le] at hle
    simp only [Option.elim_some]
    omega

theorem strictlyAscending_append (h : l.HasRoom (n + 1)) (hasc : StrictlyAscending l.rows)
    {row : AppliedMigration} (hrank : row.installedRank = l.nextRank) :
    StrictlyAscending (l.rows ++ [row]) := by
  refine List.pairwise_append.2 ⟨hasc, List.pairwise_singleton _ _, fun r hr q hq => ?_⟩
  obtain rfl : q = row := by simpa using hq
  exact hrank ▸ lt_nextRank h hr

/-- **A row of the next rank is appended behind all others.** -/
theorem append_of_hasRoom (h : l.HasRoom (n + 1)) {row : AppliedMigration}
    (hrank : row.installedRank = l.nextRank) :
    ∃ next, l.append row = .ok next ∧ next.rows = l.rows ++ [row] ∧ next.HasRoom n := by
  have hlt : ∀ r ∈ l.rows, r.installedRank < row.installedRank := fun r hr =>
    hrank ▸ lt_nextRank h hr
  have hfree : l.hasRank row.installedRank = false :=
    hasRank_eq_false_iff.2 fun r hr => Int32.ne_of_lt (hlt r hr)
  have hrows : (ofRows (l.rows ++ [row])).rows = l.rows ++ [row] := by
    refine sortBy_eq_self (List.pairwise_append.2 ⟨l.ascending, by simp, fun r hr q hq => ?_⟩)
    obtain rfl : q = row := by simpa using hq
    exact AppliedMigration.isLE_compareRank_iff.2 (Int32.le_of_lt (hlt r hr))
  refine ⟨ofRows (l.rows ++ [row]), by rw [append, hfree]; rfl, hrows, ?_⟩
  have hlast : (ofRows (l.rows ++ [row])).lastRank? = some l.nextRank := by
    rw [lastRank?, hrows, List.max?_eq_some_iff, ← hrank]
    refine ⟨by simp, fun rank hmem => ?_⟩
    rw [List.map_append, List.mem_append] at hmem
    rcases hmem with hmem | hmem
    · obtain ⟨r, hr, rfl⟩ := List.mem_map.1 hmem
      exact Int32.le_of_lt (hlt r hr)
    · obtain rfl : rank = row.installedRank := by simpa using hmem
      exact Int32.le_refl _
  have hnext := toInt_nextRank h
  unfold HasRoom at h ⊢
  rw [hlast, Option.elim_some, hnext]
  omega

end Ledger

/-! ### Runs -/

/-- The rows are those of a run of the migrations, one for each, in order. -/
def IsRunOf (runner : ResolvedMigration → Runner) (ms : List ResolvedMigration)
    (rows : List AppliedMigration) : Prop :=
  List.Forall₂ (fun m row => row = (runner m).rowOf m row.installedRank) ms rows

/-- **A run appends its rows behind all others**, in order, while there is room. -/
theorem appendRun_of_hasRoom (runner : ResolvedMigration → Runner) {l : Ledger}
    {ms : List ResolvedMigration} (h : l.HasRoom ms.length) (hasc : StrictlyAscending l.rows) :
    ∃ rows after, appendRun runner l ms = (.ok rows, after) ∧ IsRunOf runner ms rows ∧
      after.rows = l.rows ++ rows ∧ StrictlyAscending after.rows := by
  induction ms generalizing l with
  | nil => exact ⟨[], l, rfl, .nil, by simp, hasc⟩
  | cons m ms ih =>
    let row := (runner m).rowOf m l.nextRank
    obtain ⟨next, happend, hnext, hroom⟩ := Ledger.append_of_hasRoom h
      (show row.installedRank = l.nextRank from rfl)
    have hascNext : StrictlyAscending next.rows :=
      hnext ▸ Ledger.strictlyAscending_append h hasc rfl
    obtain ⟨rows, after, hrun, hof, hafter, hascAfter⟩ := ih hroom hascNext
    refine ⟨row :: rows, after, ?_, .cons rfl hof, by rw [hafter, hnext, List.append_assoc]; rfl,
      hascAfter⟩
    have happend : LedgerAccess.append l ((runner m).rowOf m (LedgerAccess.nextRank l)) = .ok next :=
      happend
    simp only [appendRun, happend, hrun, Except.map]
    rfl

namespace IsRunOf

variable {runner : ResolvedMigration → Runner} {ms : List ResolvedMigration}
  {rows : List AppliedMigration}

theorem map_key (h : IsRunOf runner ms rows) :
    rows.map AppliedMigration.key = ms.map ResolvedMigration.key := by
  induction h with
  | nil => rfl
  | cons hrow _ ih => rw [List.map_cons, List.map_cons, ih, hrow, Runner.key_rowOf]

/-- Every row of a run is that of one of its migrations. -/
theorem exists_migration (h : IsRunOf runner ms rows) {row : AppliedMigration} (hrow : row ∈ rows) :
    ∃ m ∈ ms, row = (runner m).rowOf m row.installedRank := by
  induction h with
  | nil => simp at hrow
  | @cons m q ms rows hq _ ih =>
    rcases List.mem_cons.1 hrow with rfl | hrow
    · exact ⟨m, List.mem_cons_self, hq⟩
    · obtain ⟨n, hn, heq⟩ := ih hrow
      exact ⟨n, List.mem_cons_of_mem _ hn, heq⟩

/-- A run of migrations that are no tombstones writes no tombstones. -/
theorem isTombstone_eq_false (h : IsRunOf runner ms rows)
    (hkinds : ∀ m ∈ ms, m.kind.isTombstone = false) :
    ∀ row ∈ rows, row.isTombstone = false := by
  intro row hrow
  obtain ⟨m, hm, heq⟩ := h.exists_migration hrow
  rw [heq]
  exact hkinds m hm

end IsRunOf

/-! ### What new rows change -/

section

variable {rows more : List AppliedMigration}

/-- The newest row of a key is the newest one of the new rows, if they have any. -/
theorem newestRow?_append (rows more : List AppliedMigration) (k : Key) :
    newestRow? (rows ++ more) k = (newestRow? more k).or (newestRow? rows k) := by
  rw [newestRow?, List.filter_append, List.getLast?_append]
  rfl

/-- New rows that are no tombstones make their keys live. -/
theorem isLive_append (hmore : ∀ r ∈ more, r.isTombstone = false) (k : Key) :
    isLive (rows ++ more) k = true ↔ isLive rows k = true ∨ ∃ q ∈ more, q.key.same k = true := by
  unfold isLive
  rw [newestRow?_append]
  cases hnew : newestRow? more k with
  | none =>
    have hnone : ¬ ∃ q ∈ more, q.key.same k = true := by
      rintro ⟨q, hq, hk⟩
      have hempty := List.getLast?_eq_none_iff.1 hnew
      exact List.not_mem_nil (hempty ▸ List.mem_filter.2 ⟨hq, hk⟩)
    rw [Option.none_or, or_iff_left hnone]
  | some q =>
    obtain ⟨hq, hk⟩ := List.mem_filter.1 (List.mem_of_getLast? hnew)
    simp only [Option.some_or, Option.any_some, hmore q hq, Bool.not_false, true_iff]
    exact .inr ⟨q, hq, hk⟩

/-- An applied row stays applied when rows that are no tombstones are appended. -/
theorem IsApplied.append (hasc : StrictlyAscending (rows ++ more))
    (hmore : ∀ r ∈ more, r.isTombstone = false) {r : AppliedMigration} (h : IsApplied rows r) :
    IsApplied (rows ++ more) r := by
  have hrows : StrictlyAscending rows := hasc.sublist (List.sublist_append_left _ _)
  have hlive := (isLive_append hmore r.key).2 (.inl ((isLive_eq_true_iff hrows).2 h.live))
  exact ⟨List.mem_append_left _ h.mem, h.success, h.not_tombstone,
    (isLive_eq_true_iff hasc).1 hlive⟩

theorem IsAppliedVersion.append (hasc : StrictlyAscending (rows ++ more))
    (hmore : ∀ r ∈ more, r.isTombstone = false) {w : Version} (h : IsAppliedVersion rows w) :
    IsAppliedVersion (rows ++ more) w := by
  obtain ⟨r, happlied, hw⟩ := h
  exact ⟨r, happlied.append hasc hmore, hw⟩

/-- A version that is applied after rows were appended was applied before, or is that of a new
row. -/
theorem isAppliedVersion_of_append (hasc : StrictlyAscending (rows ++ more))
    (hmore : ∀ r ∈ more, r.isTombstone = false) {w : Version}
    (h : IsAppliedVersion (rows ++ more) w) :
    IsAppliedVersion rows w ∨ ∃ q ∈ more, ∃ u, q.version = some u ∧ compare u w = .eq := by
  obtain ⟨r, happlied, hw⟩ := h
  have hrows : StrictlyAscending rows := hasc.sublist (List.sublist_append_left _ _)
  rcases List.mem_append.1 happlied.mem with hr | hr
  · have hlive := (isLive_append hmore r.key).1 ((isLive_eq_true_iff hasc).2 happlied.live)
    rcases hlive with hlive | ⟨q, hq, hkey⟩
    · exact .inl ⟨r, ⟨hr, happlied.success, happlied.not_tombstone,
        (isLive_eq_true_iff hrows).1 hlive⟩, hw⟩
    · -- the key was removed, and the new row that brings it back has the same version
      have hversion := (Key.compare_eq_iff.1 (Key.same_eq_true_iff.1 hkey)).1
      change compare q.version r.version = .eq at hversion
      rw [hw] at hversion
      cases hu : q.version with
      | none =>
        rw [hu] at hversion
        exact nomatch hversion
      | some u =>
        rw [hu] at hversion
        exact .inr ⟨q, hq, u, hu, hversion⟩
  · exact .inr ⟨r, hr, w, hw, Std.ReflCmp.compare_self⟩

end

end MigrationLedger
