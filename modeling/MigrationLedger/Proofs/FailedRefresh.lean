import MigrationLedger.Proofs.Completeness

/-!
# Refreshes that fail

A refresh fails when the sources or the ledger cannot be read, or when two migrations
share a key.  It keeps the infos, and with them every answer that is read off the infos
alone.  Validation reads the patterns of the request besides, and a refresh that could read
both sides takes its request over before it looks for shared keys.  So one that fails for a
shared key leaves the old infos to be judged by its own patterns.

## Main definitions

* `RefreshCall`, `RefreshCall.run` — what a refresh is given, and the refresh.
* `RefreshCall.outcome` — what the refresh finds, whatever the service holds.
* `InfoService.afterCalls` — the service after some refreshes.

## Main results

* `RefreshCall.run_eq` — what a refresh returns, and what becomes of the service.
* `afterCalls_eq` — **the infos are those of the last refresh that succeeded**, the request is
  that of the last one that could read both sides.
* `failed_refresh_keeps_infos` — **what a failed refresh keeps, and what it changes.**
* `failed_refresh_silences_error` — a refresh that fails for a shared key can silence an error.
-/

namespace MigrationLedger

/-- What a refresh is given. -/
structure RefreshCall where
  /-- What the sources give. -/
  discovered : Except Error (List ResolvedMigration)
  /-- What the ledger hands out. -/
  rows : Except Error (List AppliedMigration)
  /-- The request. -/
  request : Request

namespace RefreshCall

/-- The refresh: its result, and the service afterwards. -/
def run (c : RefreshCall) (s : InfoService) : Except Error Unit × InfoService :=
  s.refresh c.discovered c.rows c.request

/-- Both sides can be read. -/
def isRead (c : RefreshCall) : Bool := c.discovered.isOk && c.rows.isOk

/-- What the refresh finds: infos, or the first of what can go wrong. -/
def outcome (c : RefreshCall) : Except Error (List MigrationInfo) := do
  let ms ← c.discovered
  let rows ← c.rows
  pair ms (sortByRank rows) c.request

/-- **What a refresh returns and what becomes of the service.** -/
theorem run_eq (c : RefreshCall) (s : InfoService) :
    c.run s = (c.outcome.map fun _ => (),
      ⟨if c.isRead then c.request else s.request, c.outcome.toOption.getD s.infos⟩) := by
  obtain ⟨discovered, rows, request⟩ := c
  cases discovered with
  | error e => rfl
  | ok ms =>
    cases rows with
    | error e => rfl
    | ok rows =>
      have houtcome : outcome ⟨.ok ms, .ok rows, request⟩ = pair ms (sortByRank rows) request := rfl
      have hread : isRead ⟨.ok ms, .ok rows, request⟩ = true := rfl
      rw [houtcome, hread, run, InfoService.refresh]
      cases pair ms (sortByRank rows) request with
      | error e => rfl
      | ok infos => rfl

/-- A refresh that could read both sides and fails was refused for a shared key. -/
theorem hasDuplicate_of_outcome {c : RefreshCall} {e : Error} (hread : c.isRead = true)
    (h : c.outcome = .error e) : ∃ ms, c.discovered = .ok ms ∧ HasDuplicate ms := by
  obtain ⟨discovered, rows, request⟩ := c
  cases discovered with
  | error e => exact nomatch hread
  | ok ms =>
    cases rows with
    | error e => exact nomatch hread
    | ok rows =>
      refine ⟨ms, rfl, hasDuplicate_iff.2 fun hkeys => ?_⟩
      have hpair : pair ms (sortByRank rows) request = .error e := h
      rw [pair_eq_ok hkeys] at hpair
      exact nomatch hpair

theorem outcome_of_run {c : RefreshCall} {s : InfoService} {e : Error}
    (h : (c.run s).1 = .error e) : c.outcome = .error e := by
  rw [run_eq] at h
  cases hout : c.outcome with
  | ok infos => rw [hout] at h; exact nomatch h
  | error e' =>
    rw [hout] at h
    have h : (Except.error e' : Except Error Unit) = .error e := h
    rw [Except.error.inj h]

end RefreshCall

/-! ### Some refreshes -/

/-- The service after some refreshes. -/
def InfoService.afterCalls (s : InfoService) (cs : List RefreshCall) : InfoService :=
  cs.foldl (fun s c => (c.run s).2) s

/-- **The infos are those of the last refresh that succeeded.**  The request is that of the last one
that could read both sides, whether it succeeded or not. -/
theorem afterCalls_eq (s : InfoService) (cs : List RefreshCall) :
    s.afterCalls cs =
      ⟨((cs.filter RefreshCall.isRead).getLast?.map RefreshCall.request).getD s.request,
        ((cs.filterMap fun c => c.outcome.toOption).getLast?).getD s.infos⟩ := by
  induction cs using List.reverseRecOn with
  | nil => rfl
  | append_singleton cs c ih =>
    have hstep : s.afterCalls (cs ++ [c]) = (c.run (s.afterCalls cs)).2 := by
      simp [InfoService.afterCalls]
    rw [hstep, RefreshCall.run_eq, ih, List.filter_append, List.filterMap_append,
      List.getLast?_append, List.getLast?_append]
    cases hread : c.isRead <;> cases hout : c.outcome <;> simp [hread, hout, Except.toOption]

/-! ### One that fails -/

namespace Plain

/-- A version that ran is no longer discovered. -/
def goneCall : RefreshCall where
  discovered := .ok []
  rows := .ok [row 1 (some one) "V1__table.sql" 10]
  request := {}

/-- The version is back, twice, and no error is to be told. -/
def sharedCall : RefreshCall where
  discovered := .ok [migration (some one) "V1__table.sql" 10, migration (some one) "V1__table.sql" 11]
  rows := .ok [row 1 (some one) "V1__table.sql" 10]
  request := { ignorePatterns := [IgnorePattern.everything] }

end Plain

/-- **What a failed refresh keeps, and what it changes.**  It keeps the infos and all that is read
off them, changed scripts among it.  Where it could not read both sides it keeps the request too.
Where it could, the migrations share a key, and it has taken over the request; validation then
goes by the patterns of that request, and is the same when they are. -/
theorem failed_refresh_keeps_infos {c : RefreshCall} {s : InfoService} {e : Error}
    (h : (c.run s).1 = .error e) :
    let after := (c.run s).2
    after.infos = s.infos ∧ after.pending = s.pending ∧ after.applied = s.applied ∧
      after.current? = s.current? ∧ after.mismatches = s.mismatches ∧
      (c.isRead = false → after = s) ∧
      (c.isRead = true → (∃ ms, c.discovered = .ok ms ∧ HasDuplicate ms) ∧
        after = { s with request := c.request }) ∧
      (c.request.ignorePatterns = s.request.ignorePatterns → after.validate = s.validate) := by
  intro after
  have hout := RefreshCall.outcome_of_run h
  have hafter : after = ⟨if c.isRead then c.request else s.request, s.infos⟩ := by
    change (c.run s).2 = _
    rw [RefreshCall.run_eq, hout]
    rfl
  refine ⟨?_, ?_, ?_, ?_, ?_, fun hread => ?_, fun hread => ⟨?_, ?_⟩, fun hpatterns => ?_⟩
  · rw [hafter]
  · rw [hafter, InfoService.pending, InfoService.pending]
  · rw [hafter, InfoService.applied, InfoService.applied]
  · rw [hafter, InfoService.current?, InfoService.current?]
  · rw [hafter, InfoService.mismatches, InfoService.mismatches, InfoService.successes,
      InfoService.successes]
  · simp [hafter, hread]
  · exact RefreshCall.hasDuplicate_of_outcome hread hout
  · simp [hafter, hread]
  · -- validation reads the infos and the patterns, and nothing else
    have hsame : after.request.ignorePatterns = s.request.ignorePatterns := by
      rw [hafter]
      cases c.isRead with
      | true => exact hpatterns
      | false => rfl
    have hinfos : after.infos = s.infos := by rw [hafter]
    simp only [InfoService.validate, InfoService.stateErrors, InfoService.mismatches,
      InfoService.successes, hsame, hinfos]

/-- The refresh that finds the version twice keeps what a refresh before it found. -/
theorem failed_refresh_keeps_infos_shared :
    let before := (Plain.goneCall.run {}).2
    (Plain.sharedCall.run before).2.infos = before.infos ∧
      (Plain.sharedCall.run before).2.pending = before.pending := by
  intro before
  have hfails : (Plain.sharedCall.run before).1
      = .error (.duplicateMigration "V1__table.sql" "1") := rfl
  obtain ⟨hinfos, hpending, -⟩ := failed_refresh_keeps_infos hfails
  exact ⟨hinfos, hpending⟩

/-- **A refresh that fails for a shared key can silence an error.**  Before it a version that is no
longer discovered is told; the refresh fails, and its patterns silence the error from then on. -/
theorem failed_refresh_silences_error :
    let before := (Plain.goneCall.run {}).2
    let failed := Plain.sharedCall.run before
    (Plain.goneCall.run {}).1 = .ok () ∧
      failed.1 = .error (.duplicateMigration "V1__table.sql" "1") ∧
      before.validate = [⟨"V1__table.sql", some "1", .future⟩] ∧ failed.2.validate = [] := by
  intro before failed
  let gone := Plain.row 1 (some Plain.one) "V1__table.sql" 10
  have hinfos : infosOf [] (sortByRank [gone]) {} = [⟨none, some gone, .future⟩] := by
    have hsorted : sortByRank [gone] = [gone] := sortBy_eq_self (List.pairwise_singleton _ _)
    have hstate : appliedState [] [gone] gone = .future := by decide
    rw [hsorted, infosOf, unapplied, sortBy_nil, List.map_singleton, appliedInfo, hstate]
    exact sortBy_eq_self (List.pairwise_singleton _ _)
  have hbefore : Plain.goneCall.run {} = (.ok (), ⟨{}, [⟨none, some gone, .future⟩]⟩) := by
    rw [← hinfos]
    exact refresh_of_distinctKeys (by decide) {} _ {}
  have hfirst : before = ⟨{}, [⟨none, some gone, .future⟩]⟩ := congrArg Prod.snd hbefore
  have hsecond : failed.2 = ⟨Plain.sharedCall.request, [⟨none, some gone, .future⟩]⟩ := by
    change (Plain.sharedCall.run before).2 = _
    rw [hfirst]
    rfl
  refine ⟨congrArg Prod.fst hbefore, rfl, ?_, ?_⟩
  · rw [hfirst]
    decide
  · rw [hsecond]
    decide

end MigrationLedger
