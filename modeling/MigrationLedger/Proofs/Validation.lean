import MigrationLedger.Proofs.Pass

/-!
# Validation after a pass

Validation and a pass look at changed scripts differently.  A pass asks of every script for its
newest row with a discovered migration, in whichever state that row is; validation asks of every
key for its newest successful row.  A pass takes every other checksum for a change; validation
also accepts the one from before placeholders were filled in, and asks nothing of synthetic rows.
After a pass no newest row of a script is outdated, apart from one-shot scripts, so that what
validation still finds are one-shot scripts and rows behind the newest of their script.

## Main definitions

* `IsChecked` — the row is the newest successful row of its key.
* `mismatchOf?` — the error of a row whose checksum does not fit its migration.
* `ValidationError.isMismatch` — the errors about checksums.

## Main results

* `filter_isSome_applied_infosOf` — a snapshot lists the rows in the order of the ledger.
* `mismatches_infosOf` — **which rows validation finds changed.**
* `surviving_mismatches` — **which of them it finds changed after a pass.**
-/

namespace MigrationLedger

open LawfulLedger (view)

section

variable {ms : List ResolvedMigration} {rows : List AppliedMigration}

/-! ### The rows of a snapshot, in order -/

/-- Rows are listed by rank. -/
theorem compareRank_appliedInfo {a b : AppliedMigration}
    (h : a.installedRank < b.installedRank) :
    MigrationInfo.compareRank (appliedInfo ms rows a) (appliedInfo ms rows b) = .lt := by
  have hpart : compareOn MigrationInfo.part (appliedInfo ms rows a) (appliedInfo ms rows b) = .eq :=
    Nat.compare_eq_eq.2 rfl
  have hrank : compareOn MigrationInfo.installedRank (appliedInfo ms rows a)
      (appliedInfo ms rows b) = .lt := Std.compare_eq_lt.2 h
  simp [MigrationInfo.compareRank, compareLex, hpart, hrank]

/-- A snapshot lists the rows in the order of the ledger. -/
theorem filter_isSome_applied_infosOf (h : StrictlyAscending rows) (request : Request) :
    (infosOf ms rows request).filter (fun i => i.applied.isSome)
      = rows.map (appliedInfo ms rows) := by
  have hperm : ((infosOf ms rows request).filter fun i => i.applied.isSome).Perm
      (rows.map (appliedInfo ms rows)) := by
    refine ((infosOf_perm ms rows request).filter _).trans ?_
    simp [List.filter_map, Function.comp_def, appliedInfo, MigrationInfo.planned]
  have hsorted : ((infosOf ms rows request).filter fun i => i.applied.isSome).Pairwise
      fun i j => (MigrationInfo.compareRank i j).isLE = true :=
    (pairwise_sortBy _ _).filter _
  rw [← sortBy_eq_self hsorted]
  exact sortBy_eq_of_perm (List.pairwise_map.2 (h.imp compareRank_appliedInfo)) hperm

/-! ### Checked rows -/

/-- The row is the newest successful row of its key. -/
def IsChecked (ms : List ResolvedMigration) (rows : List AppliedMigration)
    (r : AppliedMigration) : Prop :=
  appliedState ms rows r = .success ∧
    ∀ q ∈ rows, appliedState ms rows q = .success → q.key.same r.key = true →
      q.installedRank ≤ r.installedRank

instance (ms : List ResolvedMigration) (rows : List AppliedMigration) (r : AppliedMigration) :
    Decidable (IsChecked ms rows r) := inferInstanceAs (Decidable (_ ∧ _))

/-- The error of a row whose checksum does not fit its migration. -/
def mismatchOf? (ms : List ResolvedMigration) (r : AppliedMigration) : Option ValidationError :=
  match migrationOf? ms r.key with
  | none => none
  | some m =>
    if r.kind.isSynthetic || m.checksumMatches r.checksum then none
    else some ⟨r.script, r.version.map Version.text, .checksumMismatch r.checksum m.checksum⟩

theorem mismatch?_appliedInfo (r : AppliedMigration) :
    InfoService.mismatch? (appliedInfo ms rows r) r = mismatchOf? ms r := by
  cases hm : migrationOf? ms r.key with
  | none => simp [InfoService.mismatch?, appliedInfo, mismatchOf?, hm]
  | some m =>
    have hs : m.script = r.script := script_of_migrationOf? hm
    simp [InfoService.mismatch?, appliedInfo, mismatchOf?, hm, ValidationError.ofInfo,
      MigrationInfo.script, MigrationInfo.version, hs]

/-- The entry that an info contributes to the successful ones. -/
def MigrationInfo.success? (i : MigrationInfo) : Option (MigrationInfo × AppliedMigration) :=
  if i.state == .success then i.applied.map fun a => (i, a) else none

theorem MigrationInfo.success?_eq_ite (i : MigrationInfo) :
    i.success? = if i.applied.isSome then i.success? else none := by
  obtain ⟨m, _ | a, state⟩ := i <;> simp [success?]

/-- The info of a row, with the row. -/
def entryOf (ms : List ResolvedMigration) (rows : List AppliedMigration)
    (r : AppliedMigration) : MigrationInfo × AppliedMigration :=
  (appliedInfo ms rows r, r)

/-- The successful rows of a snapshot, in the order of the ledger. -/
theorem successes_infosOf (h : StrictlyAscending rows) (request : Request) :
    (InfoService.mk request (infosOf ms rows request)).successes
      = (rows.filter fun r => appliedState ms rows r = .success).map (entryOf ms rows) := by
  calc (infosOf ms rows request).filterMap MigrationInfo.success?
    _ = (infosOf ms rows request).filterMap
          fun i => if i.applied.isSome then i.success? else none :=
        List.filterMap_congr fun i _ => i.success?_eq_ite
    _ = (rows.map (appliedInfo ms rows)).filterMap MigrationInfo.success? := by
        rw [← List.filterMap_filter, filter_isSome_applied_infosOf h]
    _ = (rows.filter fun r => appliedState ms rows r = .success).map (entryOf ms rows) := by
        rw [List.filterMap_map, ← List.filterMap_eq_map, List.filterMap_filter]
        simp [Function.comp_def, MigrationInfo.success?, appliedInfo, entryOf]

/-- The first of some rows that ascend is the newest of its key when no other row has the key. -/
theorem forall_rank_le_head_iff {r : AppliedMigration} {rest : List AppliedMigration}
    (h : StrictlyAscending (r :: rest)) :
    (∀ q ∈ r :: rest, q.key.same r.key = true → q.installedRank ≤ r.installedRank) ↔
      ¬ ∃ q ∈ rest, q.key.same r.key = true := by
  rw [List.forall_mem_cons, and_iff_right fun _ => Int32.le_refl _]
  constructor
  · rintro hle ⟨q, hq, hk⟩
    exact Int32.not_le.2 ((List.pairwise_cons.1 h).1 q hq) (hle q hq hk)
  · intro hnone q hq hk
    exact absurd ⟨q, hq, hk⟩ hnone

/-- An entry is passed over when a later row has its key. -/
theorem any_entryOf_iff {r : AppliedMigration} {rest : List AppliedMigration}
    (h : StrictlyAscending (r :: rest)) :
    ((rest.map (entryOf ms rows)).any fun f => f.2.key.same (entryOf ms rows r).2.key
        && MigrationInfo.compareRank (entryOf ms rows r).1 f.1 == .lt) = true ↔
      ∃ q ∈ rest, q.key.same r.key = true := by
  simp only [List.any_map, List.any_eq_true, Function.comp_apply, Bool.and_eq_true, beq_iff_eq,
    entryOf]
  constructor
  · rintro ⟨q, hq, hk, -⟩
    exact ⟨q, hq, hk⟩
  · rintro ⟨q, hq, hk⟩
    exact ⟨q, hq, hk, compareRank_appliedInfo ((List.pairwise_cons.1 h).1 q hq)⟩

/-- Among rows that ascend, the newest entry of each key is that of its greatest rank. -/
theorem newestPerKey_map {chosen : List AppliedMigration} (h : StrictlyAscending chosen) :
    InfoService.newestPerKey (chosen.map (entryOf ms rows))
      = (chosen.filter fun r => ∀ q ∈ chosen, q.key.same r.key = true →
          q.installedRank ≤ r.installedRank).map (entryOf ms rows) := by
  induction chosen with
  | nil => rfl
  | cons r rest ih =>
    obtain ⟨hlt, hrest⟩ := List.pairwise_cons.1 h
    -- the first row decides nothing for the others, which have greater ranks
    have htail : rest.filter (fun a => ∀ q ∈ r :: rest, q.key.same a.key = true →
          q.installedRank ≤ a.installedRank)
        = rest.filter fun a => ∀ q ∈ rest, q.key.same a.key = true →
          q.installedRank ≤ a.installedRank := by
      refine List.filter_congr fun a ha => decide_eq_decide.2 ?_
      rw [List.forall_mem_cons]
      exact and_iff_right fun _ => Int32.le_of_lt (hlt a ha)
    rw [List.filter_cons, htail, List.map_cons, InfoService.newestPerKey, ih hrest]
    by_cases hlater : ∃ q ∈ rest, q.key.same r.key = true
    · rw [if_pos ((any_entryOf_iff h).2 hlater),
        if_neg fun hnone => (forall_rank_le_head_iff h).1 (of_decide_eq_true hnone) hlater]
    · rw [if_neg (mt (any_entryOf_iff h).1 hlater),
        if_pos (decide_eq_true ((forall_rank_le_head_iff h).2 hlater)), List.map_cons]
      congr 1
      refine List.filter_eq_self.2 fun e he => ?_
      obtain ⟨q, hq, rfl⟩ := List.mem_map.1 he
      have hother : q.key.same r.key = false := Bool.eq_false_iff.2 fun hk =>
        hlater ⟨q, (List.mem_filter.1 hq).1, hk⟩
      simp only [entryOf, hother, Bool.not_false]

/-- **Which rows validation finds changed**: the checked ones whose checksum does not fit, in the
order of the ledger. -/
theorem mismatches_infosOf (h : StrictlyAscending rows) (request : Request) :
    (InfoService.mk request (infosOf ms rows request)).mismatches
      = (rows.filter fun r => IsChecked ms rows r).filterMap (mismatchOf? ms) := by
  have hasc : StrictlyAscending (rows.filter fun r => appliedState ms rows r = .success) :=
    h.sublist List.filter_sublist
  have hchecked : (rows.filter fun r => appliedState ms rows r = .success).filter
        (fun r => ∀ q ∈ rows.filter fun r => appliedState ms rows r = .success,
          q.key.same r.key = true → q.installedRank ≤ r.installedRank)
      = rows.filter fun r => IsChecked ms rows r := by
    rw [List.filter_filter]
    refine List.filter_congr fun r _ => ?_
    rw [← Bool.decide_and, decide_eq_decide, IsChecked, and_comm]
    simp only [List.mem_filter, decide_eq_true_eq, and_imp]
  rw [InfoService.mismatches, successes_infosOf h, newestPerKey_map hasc, hchecked,
    List.filterMap_map]
  exact List.filterMap_congr fun r _ => mismatch?_appliedInfo r

end

/-! ### Errors about checksums -/

/-- The error is about a checksum. -/
def ValidationError.isMismatch (e : ValidationError) : Bool :=
  match e.cause with
  | .checksumMismatch _ _ => true
  | _ => false

/-- No state is an error about a checksum. -/
theorem ValidationError.isMismatch_ofInfo_ofState? {state : MigrationState} {cause : Cause}
    (h : Cause.ofState? state = some cause) (i : MigrationInfo) :
    (ofInfo i cause).isMismatch = false := by
  cases state <;> simp only [Cause.ofState?, reduceCtorEq, Option.some.injEq] at h <;>
    subst h <;> rfl

namespace InfoService

theorem isMismatch_of_mem_stateErrors {s : InfoService} {e : ValidationError}
    (h : e ∈ s.stateErrors) : e.isMismatch = false := by
  obtain ⟨i, -, he⟩ := List.mem_filterMap.1 h
  split at he
  · exact nomatch he
  · next cause hcause =>
    split at he
    · exact nomatch he
    · obtain rfl := Option.some.inj he
      exact ValidationError.isMismatch_ofInfo_ofState? hcause i

theorem isMismatch_of_mem_mismatches {s : InfoService} {e : ValidationError}
    (h : e ∈ s.mismatches) : e.isMismatch = true := by
  obtain ⟨⟨i, a⟩, -, he⟩ := List.mem_filterMap.1 h
  have hfound : mismatch? i a = some e := he
  unfold mismatch? at hfound
  split at hfound
  · exact nomatch hfound
  · split at hfound
    · exact nomatch hfound
    · obtain rfl := Option.some.inj hfound
      rfl

/-- The errors of a validation that are about checksums. -/
theorem filter_isMismatch_validate (s : InfoService) :
    s.validate.filter ValidationError.isMismatch = s.mismatches := by
  rw [validate, List.filter_append, List.filter_eq_nil_iff.2, List.nil_append]
  · exact List.filter_eq_self.2 fun e he => isMismatch_of_mem_mismatches he
  · intro e he
    simp [isMismatch_of_mem_stateErrors he]

end InfoService

/-! ### After a pass -/

section

variable {ms : List ResolvedMigration} {oneShotPrefix : Option String}
  {rows : List AppliedMigration} {r : AppliedMigration}

/-- The row is of a one-shot script, or not the newest of its script. -/
def IsSpared (ms : List ResolvedMigration) (oneShotPrefix : Option String)
    (rows : List AppliedMigration) (r : AppliedMigration) : Prop :=
  isOneShotScript oneShotPrefix r.script = true ∨ ¬ IsNewestOfScript ms rows r

instance (ms : List ResolvedMigration) (oneShotPrefix : Option String)
    (rows : List AppliedMigration) (r : AppliedMigration) :
    Decidable (IsSpared ms oneShotPrefix rows r) := inferInstanceAs (Decidable (_ ∨ _))

/-- A row whose checksum does not fit is outdated, one-shot scripts apart. -/
theorem isOutdated_of_mismatchOf? {e : ValidationError} (he : mismatchOf? ms r = some e)
    (hone : isOneShotScript oneShotPrefix r.script = false) :
    isOutdated ms oneShotPrefix r = true := by
  unfold mismatchOf? at he
  split at he
  · exact nomatch he
  · next m hm =>
    split at he
    · exact nomatch he
    · next hfits =>
      simp only [Bool.or_eq_true, not_or, Bool.not_eq_true, ResolvedMigration.checksumMatches,
        beq_eq_false_iff_ne] at hfits
      obtain ⟨hsynthetic, hchecksum, -⟩ := hfits
      have hplain : r.isTombstone = false := Bool.eq_false_iff.2 fun htomb =>
        Bool.false_ne_true (hsynthetic.symm.trans (Kind.isSynthetic_of_isTombstone htomb))
      simp [isOutdated, hm, hchecksum, hplain, hone]

/-- Where no row has drifted, a row whose checksum does not fit is spared. -/
theorem isSpared_of_mismatchOf? (hnone : ¬ IsDrifted ms oneShotPrefix rows r)
    {e : ValidationError} (he : mismatchOf? ms r = some e) :
    IsSpared ms oneShotPrefix rows r := by
  by_contra hspared
  obtain ⟨hone, hnewest⟩ := not_or.1 hspared
  have houtdated := isOutdated_of_mismatchOf? he (Bool.eq_false_iff.2 hone)
  exact hnone ⟨not_not.1 hnewest, houtdated⟩

end

namespace Plain

/-- An index of two versions, a view, and a script that runs once. -/
def editions : List ResolvedMigration :=
  [migration (some one) "index.sql" 10, migration (some two) "index.sql" 20,
    migration none "R__view.sql" 30, migration none "O__seed.sql" 40]

/-- Every script has changed since it ran, except for the second version of the index. -/
def editionsHistory : Ledger where
  rows := [row 1 (some one) "index.sql" 9, row 2 (some two) "index.sql" 20,
    row 3 none "O__seed.sql" 39, row 4 none "R__view.sql" 29]
  ascending := by decide

end Plain

/-- **What validation finds changed after a pass.**  A snapshot after a pass that succeeds, for
whichever request, can be made, and the checksum errors of its validation are those of the checked
rows whose checksum does not fit and that are of a one-shot script or not the newest of their
script; each row has one error, and they come in the order of the ledger. -/
theorem surviving_mismatches {σ : Type} [LedgerAccess σ] [LawfulLedger σ]
    {ms : List ResolvedMigration} {store : σ} {settings : MigrationSettings}
    (hkeys : DistinctKeys ms) (hranks : DistinctRanks (view store).rows)
    (hon : settings.republishOnChange = true) {report : Report}
    (hok : (reconcile (.ok ms) store settings).outcome = .ok report) :
    let after := (reconcile (.ok ms) store settings).store
    ∀ (service : InfoService) (request : Request) (handed : List AppliedMigration),
      LedgerAccess.rows after = .ok handed →
      ∃ infos,
        service.refresh (.ok ms) (.ok handed) request = (.ok (), ⟨request, infos⟩) ∧
        (InfoService.mk request infos).validate.filter ValidationError.isMismatch
          = ((view after).rows.filter fun r => IsChecked ms (view after).rows r ∧
              IsSpared ms settings.oneShotPrefix (view after).rows r).filterMap
            (mismatchOf? ms) := by
  intro after service request handed hread
  have hasc : StrictlyAscending (view after).rows :=
    strictlyAscending_rows_reconcile settings hkeys hranks
  have hnone : ∀ r, ¬ IsDrifted ms settings.oneShotPrefix (view after).rows r := fun r hr =>
    not_isSelected_reconcile_of_ok hkeys hranks hon hok r (.inl hr)
  refine ⟨_, refresh_eq_ok hkeys hasc (LawfulLedger.perm_of_rows hread) service request, ?_⟩
  rw [InfoService.filter_isMismatch_validate, mismatches_infosOf hasc, List.filterMap_filter,
    List.filterMap_filter]
  refine List.filterMap_congr fun r _ => ?_
  cases he : mismatchOf? ms r with
  | none => simp
  | some e => simp [isSpared_of_mismatchOf? (hnone r) he]

/-- After the pass over the ledger of the two versions, validation finds the seed changed, and the
first version of the index, whose script the second version shares. -/
theorem surviving_mismatches_editions :
    ∃ infos,
      InfoService.refresh {} (.ok Plain.editions) (LedgerAccess.rows
        (reconcile (.ok Plain.editions) Plain.editionsHistory Plain.settings).store) {}
          = (.ok (), ⟨{}, infos⟩) ∧
      (InfoService.mk {} infos).validate.filter ValidationError.isMismatch
        = [⟨"index.sql", some "1", .checksumMismatch (some 9) (some 10)⟩,
          ⟨"O__seed.sql", none, .checksumMismatch (some 39) (some 40)⟩] := by
  have hkeys : DistinctKeys Plain.editions := by decide
  have hranks : DistinctRanks (view Plain.editionsHistory).rows := by decide
  obtain ⟨report, hok⟩ := exists_outcome_reconcile_ledger Plain.settings hkeys hranks
  have hleft : (reconcile (.ok Plain.editions) Plain.editionsHistory Plain.settings).store.rows
      = [Plain.row 1 (some Plain.one) "index.sql" 9, Plain.row 2 (some Plain.two) "index.sql" 20,
        Plain.row 3 none "O__seed.sql" 39] :=
    (rows_reconcile_of_ok hkeys hranks rfl hok).trans (by decide)
  obtain ⟨infos, hinfos, hfound⟩ := surviving_mismatches hkeys hranks rfl hok {} {} _ rfl
  refine ⟨infos, hinfos, hfound.trans ?_⟩
  rw [view_ledger, hleft]
  decide

end MigrationLedger
