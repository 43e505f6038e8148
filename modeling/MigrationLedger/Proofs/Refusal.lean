import MigrationLedger.Proofs.Pass

/-!
# Passes that a refused delete ends

A ledger may refuse to delete some of its rows, each with an error of its own, and is not
changed by refusing.  A pass over such a ledger deletes its selection from the front up to
the first refused row, and ends with the error of that row.  What stands behind the row is
not even attempted, and the audit log is told of the drifted rows that were deleted.

## Main definitions

* `Pass.StopsAt` — all that became of a pass that was stopped at a row.

## Main results

* `reconcile_stops_at_refusal` — **a pass stops at the first refused row of its selection.**
-/

namespace MigrationLedger

open LawfulLedger (view)
open RefusingLedger (refusal)

/-! ### Passes that are stopped -/

/-- What becomes of a pass over rows of a ledger that is stopped at a row of its selection,
after the rows before it. -/
structure Pass.StopsAt {σ : Type} [LedgerAccess σ] [LawfulLedger σ] (pass : Pass σ)
    (rows : List AppliedMigration) (selection : DriftSelection) (outOfOrder : Bool)
    (before : List AppliedMigration) (row : AppliedMigration) (e : Error) : Prop where
  /-- The pass ends with the error of the row. -/
  outcome : pass.outcome = .error e
  /-- The rows before it are gone; all others are left, in the same order. -/
  left : (view pass.store).rows = rows.filter fun r => r ∉ before
  /-- The delete of the row is the last one that was attempted. -/
  attempted : pass.attempted = before ++ [row]
  /-- The audit log is told of the drifted rows among those before it, in order. -/
  events : pass.events = (before.filter fun r => r ∈ selection.drifted).map fun r =>
    PurgeEvent.mk r outOfOrder

/-- The part of a list that is found in its front part is the front of that part. -/
theorem filter_mem_of_append {front back before rest : List AppliedMigration}
    (hnodup : (front ++ back).Nodup) (h : front ++ back = before ++ rest) :
    before.filter (fun r => r ∈ front) = before.take front.length := by
  have hdisjoint := (List.nodup_append'.1 hnodup).2.2
  rcases List.append_eq_append_iff.1 h with ⟨more, rfl, rfl⟩ | ⟨more, rfl, rfl⟩
  · -- all of the front part stands before, with some of what follows it
    have hmore : more.filter (fun r => r ∈ front) = [] := by
      refine List.filter_eq_nil_iff.2 fun r hr hf => ?_
      exact hdisjoint (by simpa using hf) (List.mem_append_left _ hr)
    rw [List.filter_append, hmore, List.append_nil, List.take_left]
    exact List.filter_eq_self.2 fun r hr => by simpa using hr
  · rw [List.take_of_length_le (by simp)]
    exact List.filter_eq_self.2 fun r hr => by simp [hr]

namespace Plain

/-- The plain ledger behind a guard that protects the older row of the view. -/
def guarded : GuardedLedger where
  ledger := history
  reversed := true
  refused := [1]

end Plain

/-- **A pass stops at the first refused row of its selection**, and ends with the error of that
row.  The rows selected before it are deleted, nothing behind it is attempted, and the audit log
is told of each drifted row that was deleted, in order. -/
theorem reconcile_stops_at_refusal {σ : Type} [LedgerAccess σ] [RefusingLedger σ]
    {ms : List ResolvedMigration} {store : σ} {settings : MigrationSettings}
    {handed : List AppliedMigration} (hkeys : DistinctKeys ms)
    (hranks : DistinctRanks (view store).rows) (hread : LedgerAccess.rows store = .ok handed)
    (hon : settings.republishOnChange = true) :
    ∃ selection, selectionOf (.ok ms) (LedgerAccess.rows store) settings = .ok selection ∧
      ((∃ r ∈ selection.rows, (refusal store r).isSome = true) →
        ∃ before row after e, selection.rows = before ++ row :: after ∧
          (∀ r ∈ before, refusal store r = none) ∧ refusal store row = some e ∧
          (reconcile (.ok ms) store settings).StopsAt (view store).rows selection
            settings.outOfOrder before row e) := by
  have hasc := Ledger.strictlyAscending hranks
  refine ⟨passSelection ms (view store).rows settings, ?_, fun hrefused => ?_⟩
  · rw [hread]
    exact selectionOf_eq_ok hkeys hasc (LawfulLedger.perm_of_rows hread) settings
  · obtain ⟨row, hfirst⟩ := Option.isSome_iff_exists.1 (List.find?_isSome.2 hrefused)
    obtain ⟨hrow, before, after, hsplit, hfree⟩ := List.find?_eq_some_iff_append.1 hfirst
    obtain ⟨e, he⟩ := Option.isSome_iff_exists.1 hrow
    have hfree : ∀ r ∈ before, refusal store r = none := fun r hr => by simpa using hfree r hr
    refine ⟨before, row, after, e, hsplit, hfree, he, ?_⟩
    have hselected : ∀ r ∈ before, r ∈ (view store).rows := by
      intro r hr
      have hmem : r ∈ (passSelection ms (view store).rows settings).rows := by
        rw [hsplit]
        exact List.mem_append_left _ hr
      exact ((mem_rows_passSelection hasc).1 hmem).mem
    have hdistinct : DistinctRanks before := by
      have hall : DistinctRanks (passSelection ms (view store).rows settings).rows :=
        distinctRanks_rows_passSelection hasc
      rw [hsplit, DistinctRanks, List.map_append] at hall
      exact (List.nodup_append'.1 hall).1
    obtain ⟨left, hrun⟩ := deleteAll_of_refusal hdistinct hselected hfree he after
    have hpass := reconcile_eq_purge hkeys hranks hread hon
    have hleft := rows_reconcile settings hkeys hranks
    rw [hpass, purge_eq, hsplit, hrun] at hleft
    rw [hpass, purge_eq, hsplit, hrun]
    refine ⟨rfl, hleft, rfl, ?_⟩
    rw [filter_mem_of_append (nodup_rows_passSelection hasc) hsplit]

/-- The pass over the plain guarded ledger purges the view and the table, and stops at the view's
older row. -/
theorem reconcile_stops_at_refusal_guarded :
    (reconcile (.ok Plain.scripts) Plain.guarded Plain.settings).StopsAt Plain.history.rows
      (passSelection Plain.scripts Plain.history.rows Plain.settings) false
      [Plain.row 4 none "R__view.sql" 29, Plain.row 2 (some Plain.one) "V1__table.sql" 9]
      (Plain.row 1 none "R__view.sql" 28) (.ledger "delete of rank 1 refused") := by
  have hkeys : DistinctKeys Plain.scripts := by decide
  have hranks : DistinctRanks (view Plain.guarded).rows := by decide
  have hrows : (passSelection Plain.scripts Plain.history.rows Plain.settings).rows
      = [Plain.row 4 none "R__view.sql" 29, Plain.row 2 (some Plain.one) "V1__table.sql" 9,
        Plain.row 1 none "R__view.sql" 28] :=
    (rows_passSelection (Ledger.strictlyAscending hranks)).trans (by decide)
  have hread : LedgerAccess.rows Plain.guarded = .ok Plain.history.rows.reverse := rfl
  obtain ⟨selection, hselection, hstops⟩ := reconcile_stops_at_refusal hkeys hranks hread
    (show Plain.settings.republishOnChange = true from rfl)
  obtain rfl : passSelection Plain.scripts Plain.history.rows Plain.settings = selection :=
    Except.ok.inj ((selectionOf_eq_ok hkeys (Ledger.strictlyAscending hranks)
      (List.reverse_perm _) Plain.settings).symm.trans hselection)
  rw [hrows] at hstops
  obtain ⟨before, row, after, e, hsplit, hfree, hrow, hstop⟩ :=
    hstops ⟨Plain.row 1 none "R__view.sql" 28, by decide, by decide⟩
  have hfirst : [Plain.row 4 none "R__view.sql" 29, Plain.row 2 (some Plain.one) "V1__table.sql" 9,
      Plain.row 1 none "R__view.sql" 28].find? (fun r => (refusal Plain.guarded r).isSome)
        = some row :=
    List.find?_eq_some_iff_append.2
      ⟨by simp [hrow], before, after, hsplit, fun r hr => by simp [hfree r hr]⟩
  obtain rfl : Plain.row 1 none "R__view.sql" 28 = row := Option.some.inj hfirst
  obtain rfl : Error.ledger "delete of rank 1 refused" = e := Option.some.inj hrow
  have hsplit : [Plain.row 4 none "R__view.sql" 29, Plain.row 2 (some Plain.one) "V1__table.sql" 9]
      ++ Plain.row 1 none "R__view.sql" 28 :: [] = before ++ _ :: after := hsplit
  obtain ⟨rfl, -⟩ := (List.append_cons_inj_of_notMem (by decide) (by decide)).1 hsplit
  exact hstop

end MigrationLedger
