import MigrationLedger.Proofs.LedgerCalls

/-!
# Rows that share a rank

A delete goes by the rank of its row.  It takes out that row and nothing else when no other row has
the rank; otherwise it takes out every row that has.  A call brings no second row to a rank, since
an append refuses one that is taken.  But a ledger can be made of any rows, and then several of them
may share a rank from the start.  So each rank has a history of its own: either no call has touched
it, and its rows are those that the ledger was made of, or it has one row at most.

## Main definitions

* `rowsOfRank` — the rows of a rank.
* `TakesOut` — a list without one of its rows.

## Main results

* `takesOut_filter_iff` — a delete takes out its row alone when the rank has no other.
* `Ledger.rowsOfRank_call`, `Ledger.rowsOfRank_callAll` — the rows of a rank after a call, and
  after a sequence of calls.
* `delete_takes_out_rank` — **what a delete takes out of a ledger that was made of any rows.**
* `delete_takes_row_of_shared_rank` — a delete of one script's row that takes another script's row.
-/

namespace MigrationLedger

/-- The rows of a rank, in their order. -/
def rowsOfRank (rank : Int32) (rows : List AppliedMigration) : List AppliedMigration :=
  rows.filter fun r => r.installedRank == rank

/-- The rest is the rows without `r`, which stood at one place among them. -/
def TakesOut (rows : List AppliedMigration) (r : AppliedMigration)
    (rest : List AppliedMigration) : Prop :=
  ∃ before after, rows = before ++ r :: after ∧ rest = before ++ after

section

variable {rank : Int32} {rows : List AppliedMigration} {r : AppliedMigration}

theorem mem_rowsOfRank : r ∈ rowsOfRank rank rows ↔ r ∈ rows ∧ r.installedRank = rank := by
  rw [rowsOfRank, List.mem_filter, beq_iff_eq]

theorem rowsOfRank_append (rank : Int32) (rows more : List AppliedMigration) :
    rowsOfRank rank (rows ++ more) = rowsOfRank rank rows ++ rowsOfRank rank more :=
  List.filter_append ..

theorem rowsOfRank_eq_nil_iff :
    rowsOfRank rank rows = [] ↔ ∀ r ∈ rows, (r.installedRank != rank) = true := by
  simp [rowsOfRank]

/-- Rows in ascending order of rank keep their order within a rank. -/
theorem rowsOfRank_sortByRank (rank : Int32) (rows : List AppliedMigration) :
    rowsOfRank rank (sortByRank rows) = rowsOfRank rank rows := by
  rw [rowsOfRank, sortByRank, filter_sortBy]
  refine sortBy_eq_self (List.pairwise_of_forall_mem_list fun a ha b hb => ?_)
  rw [AppliedMigration.isLE_compareRank_iff, (mem_rowsOfRank.1 ha).2, (mem_rowsOfRank.1 hb).2]
  exact Int32.le_refl rank

theorem length_rowsOfRank_le_one (h : DistinctRanks rows) (rank : Int32) :
    (rowsOfRank rank rows).length ≤ 1 := by
  have hnodup : ((rowsOfRank rank rows).map AppliedMigration.installedRank).Nodup :=
    h.sublist (List.filter_sublist.map _)
  have hrank : (rowsOfRank rank rows).map AppliedMigration.installedRank
      = List.replicate (rowsOfRank rank rows).length rank :=
    List.map_eq_replicate_iff.2 fun r hr => (mem_rowsOfRank.1 hr).2
  rw [hrank, List.nodup_replicate] at hnodup
  exact hnodup

/-- **Dropping the rows of a rank takes out a single row when the rank has no other.** -/
theorem takesOut_filter_iff :
    TakesOut rows r (rows.filter fun q => q.installedRank != r.installedRank) ↔
      rowsOfRank r.installedRank rows = [r] := by
  constructor
  · rintro ⟨before, after, hrows, hrest⟩
    have hmem : r ∈ rowsOfRank r.installedRank rows := by
      rw [mem_rowsOfRank, hrows]
      exact ⟨by simp, rfl⟩
    -- all but one of the rows are left, so that the rank has one row
    have hlength := List.length_eq_length_filter_add (l := rows)
      fun q => q.installedRank == r.installedRank
    have hleft : (rows.filter fun q => !(q.installedRank == r.installedRank)).length
        = before.length + after.length := by
      rw [← List.length_append, ← hrest]
      rfl
    have hall : rows.length = before.length + after.length + 1 := by
      rw [hrows, List.length_append, List.length_cons, Nat.add_assoc]
    have hone : (rowsOfRank r.installedRank rows).length = 1 := by
      rw [rowsOfRank]
      omega
    obtain ⟨q, hq⟩ := List.length_eq_one_iff.1 hone
    rw [hq, List.mem_singleton] at hmem
    rw [hq, hmem]
  · intro hone
    have hmem : r ∈ rows := (mem_rowsOfRank.1 (hone ▸ List.mem_singleton_self r)).1
    obtain ⟨before, after, rfl⟩ := List.append_of_mem hmem
    have hself : rowsOfRank r.installedRank [r] = [r] := by simp [rowsOfRank]
    rw [List.append_cons, rowsOfRank_append, rowsOfRank_append, hself] at hone
    have hlength : (rowsOfRank r.installedRank before).length + 1
        + (rowsOfRank r.installedRank after).length = 1 := by
      rw [← List.length_singleton (a := r), ← List.length_append, ← List.length_append, hone]
    have hbefore : rowsOfRank r.installedRank before = [] := List.length_eq_zero_iff.1 (by omega)
    have hafter : rowsOfRank r.installedRank after = [] := List.length_eq_zero_iff.1 (by omega)
    refine ⟨before, after, rfl, ?_⟩
    rw [List.filter_append, List.filter_cons_of_neg (by simp),
      List.filter_eq_self.2 (rowsOfRank_eq_nil_iff.1 hbefore),
      List.filter_eq_self.2 (rowsOfRank_eq_nil_iff.1 hafter)]

end

namespace Ledger

variable {l : Ledger}

theorem rowsOfRank_ofRows (rank : Int32) (rows : List AppliedMigration) :
    rowsOfRank rank (ofRows rows).rows = rowsOfRank rank rows :=
  rowsOfRank_sortByRank rank rows

theorem rowsOfRank_of_free {rank : Int32} (h : l.hasRank rank = false) :
    rowsOfRank rank l.rows = [] := by
  rw [rowsOfRank_eq_nil_iff]
  intro r hr
  rw [bne_iff_ne]
  exact hasRank_eq_false_iff.1 h r hr

/-- A call leaves the rows of a rank as they are, or one of them at most. -/
theorem rowsOfRank_call (l : Ledger) (c : LedgerCall) (rank : Int32) :
    rowsOfRank rank (l.call c).1.rows = rowsOfRank rank l.rows ∨
      (rowsOfRank rank (l.call c).1.rows).length ≤ 1 := by
  cases c with
  | append row =>
    cases htaken : l.hasRank row.installedRank with
    | true =>
      rw [call_append_of_taken htaken]
      exact .inl rfl
    | false =>
      rw [call_append_of_free htaken, rowsOfRank_ofRows, rowsOfRank_append]
      by_cases hrank : row.installedRank = rank
      · -- the rank was free, so that the new row is its only one
        subst hrank
        rw [rowsOfRank_of_free htaken]
        exact .inr (List.length_filter_le ..)
      · left
        simp [rowsOfRank, hrank]
  | delete row =>
    rw [call, rows_without, rowsOfRank, List.filter_filter]
    by_cases hrank : row.installedRank = rank
    · right
      have hnone : l.rows.filter (fun r => r.installedRank == rank
          && r.installedRank != row.installedRank) = [] := by
        simp [hrank]
      rw [hnone]
      exact Nat.zero_le 1
    · left
      rw [rowsOfRank]
      congr 1
      funext r
      cases hr : r.installedRank == rank with
      | false => rfl
      | true => simpa [beq_iff_eq.1 hr] using Ne.symm hrank

/-- **No sequence of calls brings a second row to a rank**: the rows of a rank are those from the
start, or there is one at most. -/
theorem rowsOfRank_callAll (l : Ledger) (calls : List LedgerCall) (rank : Int32) :
    rowsOfRank rank (l.callAll calls).rows = rowsOfRank rank l.rows ∨
      (rowsOfRank rank (l.callAll calls).rows).length ≤ 1 := by
  induction calls generalizing l with
  | nil => exact .inl rfl
  | cons c calls ih =>
    rw [callAll_cons]
    rcases ih (l.call c).1 with hsame | hone
    · rw [hsame]
      exact rowsOfRank_call l c rank
    · exact .inr hone

/-- A delete of a row of the ledger succeeds. -/
theorem call_delete_of_mem {r : AppliedMigration} (hr : r ∈ l.rows) :
    l.call (.delete r) = (l.without r.installedRank, none) := by
  rw [call_eq_none_iff, perform, delete_eq_ite, if_pos (hasRank_iff.2 ⟨r, hr, rfl⟩)]

end Ledger

/-- **What a delete takes out of a ledger that was made of any rows.**  After any calls, a delete of
a row of the ledger succeeds and takes out the rows of its rank, leaving all others in their order.
This is that row alone exactly when the rank has no other.  It always has no other unless the ledger
was made of several rows of the rank, which then are all still there; so a ledger that was made of
rows with distinct ranks loses no other row. -/
theorem delete_takes_out_rank (given : List AppliedMigration) (calls : List LedgerCall)
    {r : AppliedMigration} (hr : r ∈ ((Ledger.ofRows given).callAll calls).rows) :
    let l := (Ledger.ofRows given).callAll calls
    ∃ next, l.call (.delete r) = (next, none) ∧
      next.rows = l.rows.filter (fun q => q.installedRank != r.installedRank) ∧
      (TakesOut l.rows r next.rows ↔ rowsOfRank r.installedRank l.rows = [r]) ∧
      (TakesOut l.rows r next.rows ∨
        1 < (rowsOfRank r.installedRank given).length ∧
          rowsOfRank r.installedRank l.rows = rowsOfRank r.installedRank given) ∧
      (DistinctRanks given → TakesOut l.rows r next.rows) := by
  intro l
  have hexact : TakesOut l.rows r (l.without r.installedRank).rows ↔
      rowsOfRank r.installedRank l.rows = [r] := takesOut_filter_iff
  have hmem : r ∈ rowsOfRank r.installedRank l.rows := mem_rowsOfRank.2 ⟨hr, rfl⟩
  have hone : (rowsOfRank r.installedRank l.rows).length ≤ 1 →
      TakesOut l.rows r (l.without r.installedRank).rows := by
    intro hle
    have hpos := List.length_pos_of_mem hmem
    obtain ⟨q, hq⟩ := List.length_eq_one_iff.1 (Nat.le_antisymm hle hpos)
    rw [hq, List.mem_singleton] at hmem
    rw [hexact, hq, hmem]
  have hshared : TakesOut l.rows r (l.without r.installedRank).rows ∨
      1 < (rowsOfRank r.installedRank given).length ∧
        rowsOfRank r.installedRank l.rows = rowsOfRank r.installedRank given := by
    rcases Nat.lt_or_ge 1 (rowsOfRank r.installedRank l.rows).length with hmany | hle
    · -- several rows of the rank can only be those from the start
      rcases Ledger.rowsOfRank_callAll (Ledger.ofRows given) calls r.installedRank with hsame | hle
      · rw [Ledger.rowsOfRank_ofRows] at hsame
        rw [hsame] at hmany
        exact .inr ⟨hmany, hsame⟩
      · exact absurd hle (Nat.not_le.2 hmany)
    · exact .inl (hone hle)
  refine ⟨_, Ledger.call_delete_of_mem hr, rfl, hexact, hshared, fun hdistinct => ?_⟩
  rcases hshared with htakes | ⟨hmany, -⟩
  · exact htakes
  · exact absurd (length_rowsOfRank_le_one hdistinct r.installedRank) (Nat.not_le.2 hmany)

namespace Plain

/-- Rows of three scripts, two of which share a rank. -/
def sharing : List AppliedMigration :=
  [row 1 (some one) "V1__table.sql" 10, row 2 (some two) "V2__index.sql" 20,
    row 2 none "R__view.sql" 30]

theorem rows_sharing : (Ledger.ofRows sharing).rows = sharing := sortBy_eq_self (by decide)

end Plain

/-- Once the rows that shared a rank are gone, a row that is appended under this rank is the only
one there, and a delete takes out nothing else. -/
theorem delete_takes_out_rank_reused :
    let index := Plain.row 2 (some Plain.two) "V2__index.sql" 20
    let view := Plain.row 2 none "R__view.sql" 31
    let l := (Ledger.ofRows Plain.sharing).callAll [.delete index, .append view]
    view ∈ l.rows ∧ ∃ next, l.call (.delete view) = (next, none) ∧
      TakesOut l.rows view next.rows ∧
      next.rows = [Plain.row 1 (some Plain.one) "V1__table.sql" 10] := by
  intro index view l
  have hleft : ((Ledger.ofRows Plain.sharing).without 2).rows
      = [Plain.row 1 (some Plain.one) "V1__table.sql" 10] := by
    rw [Ledger.rows_without, Plain.rows_sharing]
    decide
  have hfree : ((Ledger.ofRows Plain.sharing).without 2).hasRank 2 = false := by
    rw [Ledger.hasRank, hleft]
    decide
  have hl : l.rows = [Plain.row 1 (some Plain.one) "V1__table.sql" 10, view] := by
    change (((Ledger.ofRows Plain.sharing).without 2).call (.append view)).1.rows = _
    rw [Ledger.call_append_of_free hfree, hleft]
    exact sortBy_eq_self (by decide)
  have hview : view ∈ l.rows := by
    rw [hl]
    decide
  obtain ⟨next, hcall, hrows, hexact, -, -⟩ :=
    delete_takes_out_rank Plain.sharing [.delete index, .append view] hview
  refine ⟨hview, next, hcall, hexact.2 ?_, hrows.trans ?_⟩
  · change rowsOfRank 2 l.rows = [view]
    rw [hl]
    decide
  · change l.rows.filter (fun q => q.installedRank != 2) = _
    rw [hl]
    decide

/-- **A delete of one script's row that takes another script's row**, since the ledger was made of
rows that share their rank. -/
theorem delete_takes_row_of_shared_rank :
    let index := Plain.row 2 (some Plain.two) "V2__index.sql" 20
    let view := Plain.row 2 none "R__view.sql" 30
    let l := Ledger.ofRows Plain.sharing
    index ∈ l.rows ∧ view ∈ l.rows ∧ index.script ≠ view.script ∧
      ∃ next, l.call (.delete index) = (next, none) ∧ view ∉ next.rows ∧
        ¬ TakesOut l.rows index next.rows := by
  intro index view l
  have hl : l.rows = Plain.sharing := Plain.rows_sharing
  have hindex : index ∈ l.rows := by
    rw [hl]
    decide
  refine ⟨hindex, by rw [hl]; decide, by decide, _, Ledger.call_delete_of_mem hindex, ?_, ?_⟩
  · rw [Ledger.rows_without, hl]
    decide
  · rw [Ledger.rows_without, takesOut_filter_iff, hl]
    decide

end MigrationLedger
