import MigrationLedger.Proofs.Selection
import MigrationLedger.Reconcile

/-!
# Deleting rows from a ledger

A ledger keeps its contract when it can be seen as rows in ascending order of rank: it
hands out these rows, in whichever order, and a delete that does not fail removes the
rows of the given rank.  The ledgers of this library keep it.  Of any such ledger, the
rows that a run of deletes leaves are those whose ranks were not removed, wherever the
run stopped.  Where it stops is known of a ledger that refuses fixed rows and no others.

## Main definitions

* `LawfulLedger` — a ledger that keeps its contract, with the rows it is seen as.
* `RefusingLedger` — such a ledger that refuses fixed rows and deletes all others.

## Main results

* `rows_deleteAll` — what a run of deletes leaves.
* `purge_eq` — **a purge is one run of deletes over all selected rows.**
* `deleteAll_of_refusal_eq_none`, `deleteAll_of_refusal` — rows are deleted one by one, up to the
  first that is refused.
-/

namespace MigrationLedger

/-- A ledger that keeps its contract. -/
class LawfulLedger (σ : Type) [LedgerAccess σ] where
  /-- The rows that the ledger holds. -/
  view : σ → Ledger
  /-- The ledger hands out these rows, in some order. -/
  perm_of_rows : ∀ {store : σ} {handed : List AppliedMigration},
    LedgerAccess.rows store = .ok handed → handed.Perm (view store).rows
  /-- A delete that does not fail removes the rows of a rank. -/
  view_of_delete : ∀ {store next : σ} {row : AppliedMigration},
    LedgerAccess.delete store row = .ok next → (view store).delete row = .ok (view next)

open LawfulLedger (view)

instance : LawfulLedger Ledger where
  view := id
  perm_of_rows h := by
    cases h
    exact List.Perm.refl _
  view_of_delete h := h

instance : LawfulLedger GuardedLedger where
  view := GuardedLedger.ledger
  perm_of_rows := by
    intro g handed h
    change g.rows = .ok handed at h
    unfold GuardedLedger.rows at h
    split at h
    · simp at h
    · cases h
      split
      · exact List.reverse_perm _
      · exact List.Perm.refl _
  view_of_delete := by
    intro g next row h
    change g.delete row = .ok next at h
    unfold GuardedLedger.delete at h
    split at h
    · simp at h
    · cases hl : g.ledger.delete row with
      | error e => simp [hl, Except.map] at h
      | ok l =>
        simp only [hl, Except.map, Except.ok.injEq] at h
        rw [← h]

@[simp] theorem view_ledger (l : Ledger) : view l = l := rfl

@[simp] theorem view_guardedLedger (g : GuardedLedger) : view g = g.ledger := rfl

/-! ### What a run of deletes leaves -/

section

variable {σ : Type} [LedgerAccess σ]

/-- What a run of deletes leaves, wherever it stopped. -/
theorem rows_deleteAll [LawfulLedger σ] (store : σ) (rows : List AppliedMigration) :
    (view (deleteAll store rows).store).rows = (view store).rows.filter fun r =>
      r.installedRank ∉ (deleteAll store rows).removed.map AppliedMigration.installedRank := by
  induction rows generalizing store with
  | nil => simp
  | cons row rows ih =>
    cases h : LedgerAccess.delete store row with
    | error e => simp [deleteAll_cons_error rows h]
    | ok next =>
      -- the first delete and those after it are two filters, one after the other
      have hnext := Ledger.rows_of_delete (LawfulLedger.view_of_delete h)
      rw [deleteAll_cons_ok rows h, ih next, hnext, List.filter_filter]
      refine List.filter_congr fun r _ => ?_
      by_cases hr : r.installedRank = row.installedRank <;> simp [hr]

/-- Rows among those of distinct ranks may be told apart by rank. -/
theorem filter_rank_notMem {rows removed : List AppliedMigration} (h : StrictlyAscending rows)
    (hsub : ∀ r ∈ removed, r ∈ rows) :
    (rows.filter fun r => r.installedRank ∉ removed.map AppliedMigration.installedRank)
      = rows.filter fun r => r ∉ removed := by
  refine List.filter_congr fun r hr => ?_
  rw [decide_eq_decide, not_iff_not, List.mem_map]
  constructor
  · rintro ⟨d, hd, hrank⟩
    rwa [← h.eq_of_rank_eq (hsub d hd) hr hrank]
  · intro hr
    exact ⟨r, hr, rfl⟩

theorem removed_deleteAll_of_fault_eq_none {store : σ} {rows : List AppliedMigration}
    (h : (deleteAll store rows).fault = none) : (deleteAll store rows).removed = rows := by
  obtain ⟨rest, hrows, hrest⟩ := removed_deleteAll store rows
  rw [hrest.1 h, List.append_nil] at hrows
  exact hrows.symm

/-- A run that stops early is not changed by what would have come after. -/
theorem deleteAll_append_of_fault {store : σ} {rows : List AppliedMigration} {e : Error}
    (h : (deleteAll store rows).fault = some e) (more : List AppliedMigration) :
    deleteAll store (rows ++ more) = deleteAll store rows := by
  induction rows generalizing store with
  | nil => simp at h
  | cons row rows ih =>
    rw [List.cons_append]
    cases hd : LedgerAccess.delete store row with
    | error e => rw [deleteAll_cons_error _ hd, deleteAll_cons_error _ hd]
    | ok next =>
      rw [deleteAll_cons_ok rows hd] at h
      rw [deleteAll_cons_ok _ hd, deleteAll_cons_ok _ hd, ih h]

/-- A run that does not stop goes on from the ledger it left. -/
theorem deleteAll_append_of_fault_eq_none {store : σ} {rows : List AppliedMigration}
    (h : (deleteAll store rows).fault = none) (more : List AppliedMigration) :
    deleteAll store (rows ++ more)
      = ⟨(deleteAll (deleteAll store rows).store more).store,
          (deleteAll store rows).attempted
            ++ (deleteAll (deleteAll store rows).store more).attempted,
          (deleteAll store rows).removed ++ (deleteAll (deleteAll store rows).store more).removed,
          (deleteAll (deleteAll store rows).store more).fault⟩ := by
  induction rows generalizing store with
  | nil => rfl
  | cons row rows ih =>
    rw [List.cons_append]
    cases hd : LedgerAccess.delete store row with
    | error e => simp [deleteAll_cons_error rows hd] at h
    | ok next =>
      rw [deleteAll_cons_ok rows hd] at h
      rw [deleteAll_cons_ok _ hd, deleteAll_cons_ok _ hd, ih h]
      rfl

theorem length_removed_deleteAll_le (store : σ) (rows : List AppliedMigration) :
    (deleteAll store rows).removed.length ≤ rows.length := by
  obtain ⟨rest, hrows, -⟩ := removed_deleteAll store rows
  have hlen := congrArg List.length hrows
  rw [List.length_append] at hlen
  omega

/-- **A purge is one run of deletes over all selected rows**, of which the drifted rows are
told to the audit log. -/
theorem purge_eq (store : σ) (selection : DriftSelection) (outOfOrder : Bool) :
    purge store selection outOfOrder =
      { outcome :=
          match (deleteAll store selection.rows).fault with
          | some e => .error e
          | none => .ok ⟨selection.matched, selection.candidates, selection.drifted,
              selection.superseded⟩
        store := (deleteAll store selection.rows).store
        attempted := (deleteAll store selection.rows).attempted
        removed := (deleteAll store selection.rows).removed
        events := ((deleteAll store selection.rows).removed.take selection.drifted.length).map
          fun row => PurgeEvent.mk row outOfOrder } := by
  unfold purge DriftSelection.rows
  cases h : (deleteAll store selection.drifted).fault with
  | some e =>
    rw [deleteAll_append_of_fault h]
    simp [h, List.take_of_length_le (length_removed_deleteAll_le store selection.drifted)]
  | none =>
    have hfirst := removed_deleteAll_of_fault_eq_none h
    rw [deleteAll_append_of_fault_eq_none h]
    cases hs : (deleteAll (deleteAll store selection.drifted).store selection.superseded).fault with
    | some e => simp [h, hs, hfirst]
    | none =>
      have hsecond := removed_deleteAll_of_fault_eq_none hs
      simp [h, hs, hfirst, hsecond]

end

/-! ### Ledgers that refuse deletes -/

/-- A ledger that keeps its contract, refuses to delete some rows, and deletes all others
that it holds.  Which rows it refuses does not change while rows are deleted. -/
class RefusingLedger (σ : Type) [LedgerAccess σ] extends LawfulLedger σ where
  /-- The error with which the ledger refuses to delete a row. -/
  refusal : σ → AppliedMigration → Option Error
  /-- A refused delete fails with its error. -/
  delete_of_refusal : ∀ {store : σ} {row : AppliedMigration} {e : Error},
    refusal store row = some e → LedgerAccess.delete store row = .error e
  /-- A row that is held and not refused can be deleted. -/
  exists_delete : ∀ {store : σ} {row : AppliedMigration},
    refusal store row = none → row ∈ (view store).rows →
      ∃ next, LedgerAccess.delete store row = .ok next ∧ refusal next = refusal store

open RefusingLedger (refusal)

theorem Ledger.delete_of_mem {l : Ledger} {row : AppliedMigration} (h : row ∈ l.rows) :
    l.delete row = .ok (l.without row.installedRank) :=
  if_pos (Ledger.hasRank_iff.2 ⟨row, h, rfl⟩)

instance : RefusingLedger Ledger where
  refusal _ _ := none
  delete_of_refusal h := nomatch h
  exists_delete _ hrow := ⟨_, Ledger.delete_of_mem hrow, rfl⟩

instance : RefusingLedger GuardedLedger where
  refusal g row := if g.refused.contains row.installedRank then
    some (.ledger ("delete of rank " ++ toString row.installedRank.toInt ++ " refused")) else none
  delete_of_refusal {g row e} h := by
    change g.delete row = .error e
    unfold GuardedLedger.delete
    split at h
    · next hrefused => rw [if_pos hrefused, Option.some.inj h]
    · simp at h
  exists_delete {g row} h hrow := by
    have hfree : g.refused.contains row.installedRank = false := by simpa using h
    refine ⟨{ g with ledger := g.ledger.without row.installedRank }, ?_, rfl⟩
    change g.delete row = _
    rw [GuardedLedger.delete, if_neg (by simpa using hfree),
      Ledger.delete_of_mem (l := g.ledger) hrow]
    rfl

section

variable {σ : Type} [LedgerAccess σ] [RefusingLedger σ]

/-- Rows of distinct ranks that a ledger holds and does not refuse are deleted one by one. -/
theorem deleteAll_of_refusal_eq_none {store : σ} {rows : List AppliedMigration}
    (hranks : DistinctRanks rows) (hsub : ∀ r ∈ rows, r ∈ (view store).rows)
    (hfree : ∀ r ∈ rows, refusal store r = none) :
    ∃ next, deleteAll store rows = ⟨next, rows, rows, none⟩ ∧ refusal next = refusal store := by
  induction rows generalizing store with
  | nil => exact ⟨store, rfl, rfl⟩
  | cons row rows ih =>
    obtain ⟨hfresh, hranks⟩ := List.nodup_cons.1 hranks
    obtain ⟨mid, hmid, hsame⟩ := RefusingLedger.exists_delete (hfree row List.mem_cons_self)
      (hsub row List.mem_cons_self)
    -- the rows still to come have other ranks, so they are left, and refused as before
    have hheld : ∀ r ∈ rows, r ∈ (view mid).rows := by
      intro r hr
      have hne : r.installedRank ≠ row.installedRank := fun h =>
        hfresh (h ▸ List.mem_map_of_mem hr)
      rw [Ledger.rows_of_delete (LawfulLedger.view_of_delete hmid)]
      exact List.mem_filter.2 ⟨hsub r (List.mem_cons_of_mem _ hr), by simpa using hne⟩
    obtain ⟨next, hnext, hlast⟩ := ih hranks hheld fun r hr => by
      rw [hsame]
      exact hfree r (List.mem_cons_of_mem _ hr)
    exact ⟨next, by rw [deleteAll_cons_ok rows hmid, hnext], hlast.trans hsame⟩

/-- **A run of deletes stops at the first refused row.** -/
theorem deleteAll_of_refusal {store : σ} {before : List AppliedMigration}
    {row : AppliedMigration} {e : Error} (hranks : DistinctRanks before)
    (hsub : ∀ r ∈ before, r ∈ (view store).rows) (hfree : ∀ r ∈ before, refusal store r = none)
    (hrow : refusal store row = some e) (after : List AppliedMigration) :
    ∃ left, deleteAll store (before ++ row :: after) = ⟨left, before ++ [row], before, some e⟩ := by
  obtain ⟨left, hbefore, hsame⟩ := deleteAll_of_refusal_eq_none hranks hsub hfree
  have hfault : (deleteAll store before).fault = none := by rw [hbefore]
  have hstop : LedgerAccess.delete left row = .error e :=
    RefusingLedger.delete_of_refusal (by rw [hsame, hrow])
  refine ⟨left, ?_⟩
  rw [deleteAll_append_of_fault_eq_none hfault, hbefore, deleteAll_cons_error after hstop,
    List.append_nil]

end

end MigrationLedger
