import MigrationLedger.Proofs.FailedRefresh
import MigrationLedger.Proofs.Refusal
import MigrationLedger.Proofs.SpellingInvariance

/-!
# Snapshots and passes in other spellings

A service that is told of respelled migrations and rows makes a respelling of the snapshot that it
would have made, and a pass selects the same rows.  Whether the pass then does the same is up to the
ledger.  One that knows rows by their ranks, as every ledger of this library does, answers the
delete of a row whatever the spelling of its version; so the deletes of the two passes succeed and
fail together, one after the other.

## Main definitions

* `AnswersAlike` — ledgers that hand out the same rows and answer deletes alike.
* `Deletion.IsRespelling`, `Pass.IsRespelling` — the same rows were deleted; the same was done.

## Main results

* `InfoService.IsRespelling.refresh` — **a refresh succeeds or fails as in another spelling**, and
  leaves the service in the same state.
* `InfoService.IsRespelling.afterCalls` — so does one refresh after the other.
* `isRespelling_deleteAll`, `isRespelling_reconcile` — deletes, and passes, do the same on ledgers
  that answer alike.
* `respelling_changes_no_decision` — **no decision depends on how a version is spelled.**
-/

namespace MigrationLedger

open LawfulLedger (view)
open Respelling

/-! ### Snapshots -/

/-- A refresh is given the same in another spelling. -/
structure RefreshCall.IsRespelling (c d : RefreshCall) : Prop where
  /-- What the sources give. -/
  discovered : SameOutcome (List.Forall₂ ResolvedMigration.IsRespelling) c.discovered d.discovered
  /-- What the ledger hands out. -/
  rows : SameOutcome (List.Forall₂ AppliedMigration.IsRespelling) c.rows d.rows
  /-- The request. -/
  request : c.request.IsRespelling d.request

theorem isRespelling_empty : InfoService.IsRespelling {} {} :=
  ⟨⟨.latest, rfl⟩, .nil⟩

section

variable {discovered discovered' : Except Error (List ResolvedMigration)}
  {handed handed' : Except Error (List AppliedMigration)} {request request' : Request}
  (hdiscovered :
    SameOutcome (List.Forall₂ ResolvedMigration.IsRespelling) discovered discovered')
  (hhanded : SameOutcome (List.Forall₂ AppliedMigration.IsRespelling) handed handed')
include hdiscovered hhanded

/-- **A refresh succeeds or fails as in another spelling.** -/
theorem InfoService.IsRespelling.refresh {s t : InfoService} (hs : s.IsRespelling t)
    (hrequest : request.IsRespelling request') :
    SameOutcome (· = ·) (s.refresh discovered handed request).1
        (t.refresh discovered' handed' request').1 ∧
      (s.refresh discovered handed request).2.IsRespelling
        (t.refresh discovered' handed' request').2 := by
  unfold InfoService.refresh
  cases hdiscovered with
  | error he => exact ⟨.error he, hs⟩
  | @ok ms ns hms =>
    cases hhanded with
    | error he => exact ⟨.error he, hs⟩
    | @ok rows others hrows =>
      have hsorted : List.Forall₂ AppliedMigration.IsRespelling (sortByRank rows)
          (sortByRank others) := forall₂_sortBy (fun _ _ hr => hr.compareRank_eq) hrows
      have hpair := sameOutcome_pair hms hsorted hrequest
      dsimp only
      generalize pair ms (sortByRank rows) request = x, pair ns (sortByRank others) request' = y
        at hpair
      cases hpair with
      -- the request is taken over although the pairing failed
      | error he => exact ⟨.error he, hrequest, hs.infos⟩
      | ok hinfos => exact ⟨.ok rfl, hrequest, hinfos⟩

omit hdiscovered hhanded in
/-- Services that were told the same again and again, each time in a spelling of its own, hold
the same. -/
theorem InfoService.IsRespelling.afterCalls {s t : InfoService} (hs : s.IsRespelling t)
    {cs ds : List RefreshCall} (hcs : List.Forall₂ RefreshCall.IsRespelling cs ds) :
    (s.afterCalls cs).IsRespelling (t.afterCalls ds) := by
  induction hcs generalizing s t with
  | nil => exact hs
  | cons hc _ ih => exact ih (hs.refresh hc.discovered hc.rows hc.request).2

theorem sameOutcome_load (hrequest : request.IsRespelling request') :
    SameOutcome InfoService.IsRespelling (InfoService.load discovered handed request)
      (InfoService.load discovered' handed' request') := by
  obtain ⟨houtcome, hservice⟩ := isRespelling_empty.refresh hdiscovered hhanded hrequest
  unfold InfoService.load
  generalize InfoService.refresh {} discovered handed request = x,
    InfoService.refresh {} discovered' handed' request' = y at houtcome hservice
  obtain ⟨outcome, after⟩ := x
  obtain ⟨outcome', after'⟩ := y
  cases houtcome with
  | ok _ => exact .ok hservice
  | error he => exact .error he

theorem sameOutcome_selectionOf {settings settings' : MigrationSettings}
    (hsettings : settings.IsRespelling settings') :
    SameOutcome DriftSelection.IsRespelling (selectionOf discovered handed settings)
      (selectionOf discovered' handed' settings') := by
  have hrequest : (passRequest settings).IsRespelling (passRequest settings') := by
    refine ⟨hsettings.target, ?_⟩
    rw [hsettings.rest]
    rfl
  have honce : settings.oneShotPrefix = settings'.oneShotPrefix :=
    (congrArg MigrationSettings.oneShotPrefix hsettings.rest).symm
  unfold selectionOf
  rw [honce]
  exact (sameOutcome_load hdiscovered hhanded hrequest).map fun _ _ hservice =>
    isRespelling_selectDrifted hservice.infos settings'.oneShotPrefix

end

/-! ### Deletes -/

/-- Related ledgers hand out the same rows in the same order, and answer the delete of a row
alike, after which they are related again. -/
structure AnswersAlike {σ τ : Type} [LedgerAccess σ] [LedgerAccess τ] (Sim : σ → τ → Prop) :
    Prop where
  /-- The rows. -/
  rows : ∀ {store : σ} {other : τ}, Sim store other →
    SameOutcome (List.Forall₂ AppliedMigration.IsRespelling) (LedgerAccess.rows store)
      (LedgerAccess.rows other)
  /-- Deleting a row. -/
  delete : ∀ {store : σ} {other : τ} {a b : AppliedMigration}, Sim store other →
    a.IsRespelling b →
    SameOutcome Sim (LedgerAccess.delete store a) (LedgerAccess.delete other b)

/-- The same rows were deleted, of the same ones that were tried. -/
structure Deletion.IsRespelling {σ τ : Type} (Sim : σ → τ → Prop) (d : Deletion σ)
    (e : Deletion τ) : Prop where
  /-- The ledgers afterwards. -/
  store : Sim d.store e.store
  /-- The rows whose delete was attempted. -/
  attempted : List.Forall₂ AppliedMigration.IsRespelling d.attempted e.attempted
  /-- The rows that were deleted. -/
  removed : List.Forall₂ AppliedMigration.IsRespelling d.removed e.removed
  /-- Why the last attempt failed. -/
  fault : Option.Rel Error.IsRespelling d.fault e.fault

/-- The audit log is told the same. -/
structure PurgeEvent.IsRespelling (e f : PurgeEvent) : Prop where
  /-- The rows. -/
  row : e.row.IsRespelling f.row
  /-- Whether the order matters. -/
  outOfOrder : e.outOfOrder = f.outOfOrder

/-- The reports tell the same. -/
structure Report.IsRespelling (r s : Report) : Prop where
  /-- As many pairs. -/
  matched : r.matched = s.matched
  /-- As many scripts. -/
  candidates : r.candidates = s.candidates
  /-- The drifted rows that were deleted. -/
  purged : List.Forall₂ AppliedMigration.IsRespelling r.purged s.purged
  /-- The older rows deleted with them. -/
  superseded : List.Forall₂ AppliedMigration.IsRespelling r.superseded s.superseded

/-- The passes did the same. -/
structure Pass.IsRespelling {σ τ : Type} (Sim : σ → τ → Prop) (p : Pass σ) (q : Pass τ) :
    Prop where
  /-- The reports, or why the passes ended early. -/
  outcome : SameOutcome Report.IsRespelling p.outcome q.outcome
  /-- The ledgers afterwards. -/
  store : Sim p.store q.store
  /-- The rows whose delete was attempted. -/
  attempted : List.Forall₂ AppliedMigration.IsRespelling p.attempted q.attempted
  /-- The rows that were deleted. -/
  removed : List.Forall₂ AppliedMigration.IsRespelling p.removed q.removed
  /-- What the audit log was told. -/
  events : List.Forall₂ PurgeEvent.IsRespelling p.events q.events

section

variable {σ τ : Type} [LedgerAccess σ] [LedgerAccess τ] {Sim : σ → τ → Prop} {store : σ}
  {other : τ}

/-- One delete after the other, ledgers that answer alike keep doing so. -/
theorem isRespelling_deleteAll (hsim : AnswersAlike Sim) {rows others : List AppliedMigration}
    (hrows : List.Forall₂ AppliedMigration.IsRespelling rows others) (h : Sim store other) :
    (deleteAll store rows).IsRespelling Sim (deleteAll other others) := by
  induction hrows generalizing store other with
  | nil => exact ⟨h, .nil, .nil, .none⟩
  | @cons a b rows others hr _ ih =>
    have hdelete := hsim.delete h hr
    unfold deleteAll
    generalize LedgerAccess.delete store a = x, LedgerAccess.delete other b = y at hdelete
    cases hdelete with
    | error he => exact ⟨h, .cons hr .nil, .nil, .some he⟩
    | ok hnext =>
      have hlater := ih hnext
      exact ⟨hlater.store, .cons hr hlater.attempted, .cons hr hlater.removed, hlater.fault⟩

/-- Purging the same rows does the same. -/
theorem isRespelling_purge (hsim : AnswersAlike Sim) {selection selection' : DriftSelection}
    (hselection : selection.IsRespelling selection') (outOfOrder : Bool) (h : Sim store other) :
    (purge store selection outOfOrder).IsRespelling Sim (purge other selection' outOfOrder) := by
  have hrun : (deleteAll store selection.rows).IsRespelling Sim
      (deleteAll other selection'.rows) :=
    isRespelling_deleteAll hsim (List.rel_append hselection.drifted hselection.superseded) h
  have htaken := List.forall₂_take selection.drifted.length hrun.removed
  rw [purge_eq, purge_eq, ← hselection.drifted.length_eq]
  refine ⟨?_, hrun.store, hrun.attempted, hrun.removed,
    List.rel_map (fun _ _ hr => ⟨hr, rfl⟩) htaken⟩
  have hfault := hrun.fault
  generalize (deleteAll store selection.rows).fault = e,
    (deleteAll other selection'.rows).fault = f at hfault
  cases hfault with
  | some he => exact .error he
  | none =>
    exact .ok ⟨hselection.matched, hselection.candidates, hselection.drifted,
      hselection.superseded⟩

/-- **Passes over ledgers that answer alike do the same.** -/
theorem isRespelling_reconcile (hsim : AnswersAlike Sim)
    {discovered discovered' : Except Error (List ResolvedMigration)}
    {settings settings' : MigrationSettings}
    (hdiscovered : SameOutcome (List.Forall₂ ResolvedMigration.IsRespelling) discovered discovered')
    (hsettings : settings.IsRespelling settings') (h : Sim store other) :
    (reconcile discovered store settings).IsRespelling Sim
      (reconcile discovered' other settings') := by
  have hselection := sameOutcome_selectionOf hdiscovered (hsim.rows h) hsettings
  have hon : settings.republishOnChange = settings'.republishOnChange :=
    (congrArg MigrationSettings.republishOnChange hsettings.rest).symm
  have horder : settings.outOfOrder = settings'.outOfOrder :=
    (congrArg MigrationSettings.outOfOrder hsettings.rest).symm
  unfold reconcile
  rw [hon, horder]
  split
  · generalize selectionOf discovered _ settings = x, selectionOf discovered' _ settings' = y
      at hselection
    cases hselection with
    | ok hselection => exact isRespelling_purge hsim hselection settings'.outOfOrder h
    | error he => exact ⟨.error he, h, .nil, .nil, .nil⟩
  · exact ⟨.ok ⟨rfl, rfl, .nil, .nil⟩, h, .nil, .nil, .nil⟩

end

/-! ### Guarded ledgers -/

/-- The guards are the same, and so are the rows but for the spelling of their versions. -/
structure GuardedLedger.IsRespelling (g h : GuardedLedger) : Prop where
  /-- The rows. -/
  rows : List.Forall₂ AppliedMigration.IsRespelling g.ledger.rows h.ledger.rows
  /-- The guards. -/
  rest : h = { g with ledger := h.ledger }

/-- A ledger knows rows by their ranks, and its error names the script. -/
theorem sameOutcome_delete {l m : Ledger} {a b : AppliedMigration}
    (h : List.Forall₂ AppliedMigration.IsRespelling l.rows m.rows) (hr : a.IsRespelling b) :
    SameOutcome (fun l m : Ledger => List.Forall₂ AppliedMigration.IsRespelling l.rows m.rows)
      (l.delete a) (m.delete b) := by
  have hrank : l.hasRank a.installedRank = m.hasRank b.installedRank :=
    any_eq_of_forall₂ (fun _ _ hd => by rw [hd.installedRank_eq, hr.installedRank_eq]) h
  unfold Ledger.delete
  rw [hrank, ← hr.installedRank_eq, ← hr.script_eq]
  split
  · exact .ok (forall₂_filter (fun _ _ hd => by rw [hd.installedRank_eq]) h)
  · exact .error (.same _)

theorem answersAlike_guardedLedger : AnswersAlike GuardedLedger.IsRespelling where
  rows {g h} hgh := by
    have hunreadable : g.unreadable = h.unreadable :=
      (congrArg GuardedLedger.unreadable hgh.rest).symm
    have hreversed : g.reversed = h.reversed := (congrArg GuardedLedger.reversed hgh.rest).symm
    change SameOutcome _ g.rows h.rows
    unfold GuardedLedger.rows
    rw [hunreadable, hreversed]
    split
    · exact .error (.same _)
    · refine .ok ?_
      split
      · exact List.rel_reverse hgh.rows
      · exact hgh.rows
  delete {g h a b} hgh hr := by
    have hrefused : g.refused = h.refused := (congrArg GuardedLedger.refused hgh.rest).symm
    change SameOutcome _ (g.delete a) (h.delete b)
    unfold GuardedLedger.delete
    rw [hrefused, hr.installedRank_eq]
    split
    · exact .error (.same _)
    · refine (sameOutcome_delete hgh.rows hr).map fun l m hlm => ⟨hlm, ?_⟩
      rw [hgh.rest]

namespace Plain

/-- The version `2` in another spelling. -/
def twoPadded : Version := ⟨"02_0", [.number 2, .number 0], by decide⟩

/-- The version `1` in another spelling. -/
def onePadded : Version := ⟨"001.0", [.number 1, .number 0], by decide⟩

/-- The plain scripts, one in another spelling. -/
def respelledScripts : List ResolvedMigration :=
  [migration (some onePadded) "V1__table.sql" 10, migration (some two) "V2__index.sql" 20,
    migration none "R__view.sql" 30, migration none "O__seed.sql" 40]

/-- The plain ledger with other spellings, behind the same guard. -/
def respelledLedger : GuardedLedger where
  ledger := {
    rows := [row 1 none "R__view.sql" 28, row 2 (some one) "V1__table.sql" 9,
      row 3 (some twoPadded) "V2__index.sql" 20, row 4 none "R__view.sql" 29,
      row 5 none "O__seed.sql" 39, tombstone 6 none "R__gone.sql"]
    ascending := by decide }
  reversed := true
  refused := [1]

theorem isRespelling_scripts :
    List.Forall₂ ResolvedMigration.IsRespelling scripts respelledScripts :=
  .cons ⟨.some (by decide : compare one onePadded = .eq), rfl⟩ <|
    .cons ⟨.some (by decide : compare two two = .eq), rfl⟩ <|
    .cons ⟨.none, rfl⟩ <| .cons ⟨.none, rfl⟩ .nil

theorem isRespelling_guarded : guarded.IsRespelling respelledLedger where
  rows := .cons ⟨.none, rfl⟩ <| .cons ⟨.some (by decide : compare one one = .eq), rfl⟩ <|
    .cons ⟨.some (by decide : compare two twoPadded = .eq), rfl⟩ <| .cons ⟨.none, rfl⟩ <|
    .cons ⟨.none, rfl⟩ <| .cons ⟨.none, rfl⟩ .nil
  rest := rfl

end Plain

/-- **No decision depends on how a version is spelled.**  When discovered migrations, the rows that
a ledger hands out and the target of a request spell some of their versions in another way, a
refresh succeeds or fails as before.  Afterwards the service lists the same infos in the same order
and the same states, what waits to run, what is applied and what is current are the same, and
validation tells of the same errors.  The same rows are selected for purging, and a pass over a
ledger that spells its rows in another way does the same.  Wherever something is the same, nothing
but the text of a version can be different. -/
theorem respelling_changes_no_decision {s t : InfoService}
    {discovered discovered' : Except Error (List ResolvedMigration)}
    {handed handed' : Except Error (List AppliedMigration)} {request request' : Request}
    (hservice : s.IsRespelling t)
    (hdiscovered : SameOutcome (List.Forall₂ ResolvedMigration.IsRespelling) discovered discovered')
    (hhanded : SameOutcome (List.Forall₂ AppliedMigration.IsRespelling) handed handed')
    (hrequest : request.IsRespelling request') :
    let after := s.refresh discovered handed request
    let after' := t.refresh discovered' handed' request'
    SameOutcome (· = ·) after.1 after'.1 ∧
    List.Forall₂ MigrationInfo.IsRespelling after.2.infos after'.2.infos ∧
    List.Forall₂ MigrationInfo.IsRespelling after.2.pending after'.2.pending ∧
    List.Forall₂ MigrationInfo.IsRespelling after.2.applied after'.2.applied ∧
    Option.Rel MigrationInfo.IsRespelling after.2.current? after'.2.current? ∧
    List.Forall₂ ValidationError.IsRespelling after.2.validate after'.2.validate ∧
    ∀ settings settings', settings.IsRespelling settings' →
      SameOutcome DriftSelection.IsRespelling (selectionOf discovered handed settings)
        (selectionOf discovered' handed' settings') ∧
      ∀ ledger ledger' : GuardedLedger, ledger.IsRespelling ledger' →
        (reconcile discovered ledger settings).IsRespelling GuardedLedger.IsRespelling
          (reconcile discovered' ledger' settings') := by
  intro after after'
  obtain ⟨houtcome, hafter⟩ := hservice.refresh hdiscovered hhanded hrequest
  refine ⟨houtcome, hafter.infos, hafter.forall₂_pending, hafter.forall₂_applied,
    hafter.rel_current?, hafter.forall₂_validate, fun settings settings' hsettings =>
      ⟨sameOutcome_selectionOf hdiscovered hhanded hsettings, fun ledger ledger' hledger => ?_⟩⟩
  exact isRespelling_reconcile answersAlike_guardedLedger hdiscovered hsettings hledger

/-- Over the plain guarded ledger and over its respelling, snapshots up to the second version
succeed, and the same three deletes are attempted, the last of which the guard refuses. -/
theorem respelling_changes_no_decision_padded :
    let after := InfoService.refresh {} (.ok Plain.respelledScripts)
      (LedgerAccess.rows Plain.respelledLedger) { target := .version Plain.twoPadded }
    let pass := reconcile (.ok Plain.respelledScripts) Plain.respelledLedger Plain.settings
    after.1 = .ok () ∧
    pass.attempted.map AppliedMigration.installedRank = [4, 2, 1] ∧
    pass.outcome = .error (.ledger "delete of rank 1 refused") := by
  have hkeys : DistinctKeys Plain.scripts := by decide
  have hranks : DistinctRanks (view Plain.guarded).rows := by decide
  have hasc := Ledger.strictlyAscending hranks
  have hselected : (passSelection Plain.scripts (view Plain.guarded).rows Plain.settings).rows
      = [Plain.row 4 none "R__view.sql" 29, Plain.row 2 (some Plain.one) "V1__table.sql" 9,
        Plain.row 1 none "R__view.sql" 28] :=
    (rows_passSelection hasc).trans (by decide)
  have hpass := reconcile_eq_purge hkeys hranks rfl
    (show Plain.settings.republishOnChange = true from rfl)
  rw [purge_eq, hselected] at hpass
  have htarget : Request.IsRespelling { target := .version Plain.two }
      { target := .version Plain.twoPadded } :=
    ⟨.version (by decide : compare Plain.two Plain.twoPadded = .eq), rfl⟩
  have hhanded := answersAlike_guardedLedger.rows Plain.isRespelling_guarded
  obtain ⟨houtcome, -, -, -, -, -, hpasses⟩ := respelling_changes_no_decision isRespelling_empty
    (.ok Plain.isRespelling_scripts) hhanded htarget
  have hsame := (hpasses Plain.settings Plain.settings ⟨.latest, rfl⟩).2 _ _
    Plain.isRespelling_guarded
  rw [hpass] at hsame
  refine ⟨?_, ?_, ?_⟩
  · have hperm : Plain.guarded.ledger.rows.reverse.Perm (view Plain.guarded).rows :=
      List.reverse_perm _
    have hok := congrArg Prod.fst
      (refresh_eq_ok hkeys hasc hperm {} { target := .version Plain.two })
    obtain ⟨_, hafter, -⟩ := SameOutcome.exists_of_ok (hok ▸ houtcome)
    exact hafter
  · have hattempted := map_eq_of_forall₂ (fun _ _ hr => hr.installedRank_eq) hsame.attempted
    exact hattempted.symm.trans rfl
  · obtain ⟨f, hf, hrefused⟩ : ∃ f, _ = Except.error f ∧
        (Error.ledger "delete of rank 1 refused").IsRespelling f :=
      SameOutcome.exists_of_error hsame.outcome
    cases hrefused
    exact hf

end MigrationLedger
