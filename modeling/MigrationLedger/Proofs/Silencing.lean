import MigrationLedger.Proofs.Pointwise
import MigrationLedger.Proofs.RowStates
import MigrationLedger.Proofs.Validation

/-!
# What validation reports

Validation goes through a snapshot once.  An info in one of four states is a problem by itself, and
is reported unless a pattern covers it.  A successful row is put aside for its key, the newest row
taking the place of older ones, and what was put aside is checked at the end: a row is reported
when a discovered script of its key has other checksums.  No pattern is asked about these.

So the report has two parts.  The first one is a filter of the infos by the patterns, and more
patterns leave less of it.  The second one does not see the patterns at all.

## Main definitions

* `MigrationState.IsProblem`, `MigrationInfo.IsUnsilenced` — states that are problems by
  themselves, and infos in such a state that no pattern covers.
* `IsNewestSuccess`, `IsChanged` — the newest successful row of a key, and such a row whose script
  has other checksums now.
* `ValidationError.TellsState`, `ValidationError.TellsChange` — what an error says of an info, and
  of a changed row.

## Main results

* `forall₂_stateErrors` — **the first part: one error for each info that is not silenced.**
* `forall₂_mismatches_infosOf` — **the second part: one error for each changed row.**
* `validate_reports_unsilenced` — both parts, and what the patterns do to them.
-/

namespace MigrationLedger

/-! ### States that are problems -/

/-- The state is a problem by itself. -/
def MigrationState.IsProblem (state : MigrationState) : Prop :=
  state = .missing ∨ state = .future ∨ state = .failed ∨ state = .ignored

instance : DecidablePred MigrationState.IsProblem :=
  fun _ => inferInstanceAs (Decidable (_ ∨ _ ∨ _ ∨ _))

/-- The info is in a state that is a problem, and none of the patterns covers it. -/
def MigrationInfo.IsUnsilenced (patterns : List IgnorePattern) (i : MigrationInfo) : Prop :=
  i.state.IsProblem ∧ ∀ p ∈ patterns, p.covers i = false

instance (patterns : List IgnorePattern) : DecidablePred (MigrationInfo.IsUnsilenced patterns) :=
  fun _ => inferInstanceAs (Decidable (_ ∧ _))

/-- The state that a cause names.  A changed checksum is no state. -/
def ValidationError.Cause.state? : Cause → Option MigrationState
  | .missing => some .missing
  | .future => some .future
  | .failed => some .failed
  | .ignored => some .ignored
  | .checksumMismatch _ _ => none

/-- The error names an info and its state. -/
structure ValidationError.TellsState (e : ValidationError) (i : MigrationInfo) : Prop where
  /-- The script is that of the info. -/
  script : e.script = i.script
  /-- The version is that of the info, as it is written there. -/
  version : e.version = i.version.map Version.text
  /-- The cause is the state. -/
  state : e.cause.state? = some i.state

theorem ValidationError.Cause.ofState?_eq_some_iff {state : MigrationState} {cause : Cause} :
    ofState? state = some cause ↔ cause.state? = some state := by
  cases state <;> cases cause <;> simp [ofState?, state?]

theorem ValidationError.Cause.isSome_ofState? (state : MigrationState) :
    (ofState? state).isSome = decide state.IsProblem := by
  cases state <;> rfl

namespace InfoService

/-- The error of an info whose state is a problem, unless a pattern covers it. -/
def stateError? (patterns : List IgnorePattern) (i : MigrationInfo) : Option ValidationError :=
  match ValidationError.Cause.ofState? i.state with
  | none => none
  | some cause =>
    if IgnorePattern.anyCovers patterns i then none else some (.ofInfo i cause)

theorem stateErrors_eq (s : InfoService) :
    s.stateErrors = s.infos.filterMap (stateError? s.request.ignorePatterns) := rfl

theorem anyCovers_eq_false_iff {patterns : List IgnorePattern} {i : MigrationInfo} :
    IgnorePattern.anyCovers patterns i = false ↔ ∀ p ∈ patterns, p.covers i = false := by
  simp [IgnorePattern.anyCovers]

theorem isSome_stateError? (patterns : List IgnorePattern) (i : MigrationInfo) :
    (stateError? patterns i).isSome = decide (i.IsUnsilenced patterns) := by
  have hstate := ValidationError.Cause.isSome_ofState? i.state
  have hcovers : i.IsUnsilenced patterns ↔
      i.state.IsProblem ∧ IgnorePattern.anyCovers patterns i = false :=
    and_congr_right fun _ => anyCovers_eq_false_iff.symm
  rw [decide_eq_decide.2 hcovers, Bool.decide_and, ← hstate, stateError?]
  cases ValidationError.Cause.ofState? i.state with
  | none => rfl
  | some cause => cases IgnorePattern.anyCovers patterns i <;> rfl

theorem tellsState_of_stateError? {patterns : List IgnorePattern} {i : MigrationInfo}
    {e : ValidationError} (h : stateError? patterns i = some e) : e.TellsState i := by
  unfold stateError? at h
  split at h
  · exact nomatch h
  · next cause hcause =>
    split at h
    · exact nomatch h
    · obtain rfl := Option.some.inj h
      exact ⟨rfl, rfl, ValidationError.Cause.ofState?_eq_some_iff.1 hcause⟩

end InfoService

/-- **The first part of a report: one error for each info that is not silenced.** -/
theorem forall₂_stateErrors (s : InfoService) :
    List.Forall₂ (fun i e => e.TellsState i)
      (s.infos.filter fun i => i.IsUnsilenced s.request.ignorePatterns) s.stateErrors := by
  rw [InfoService.stateErrors_eq]
  have hmade := forall₂_filter_filterMap
    (InfoService.isSome_stateError? s.request.ignorePatterns) s.infos
  exact hmade.imp fun _ _ => InfoService.tellsState_of_stateError?

/-- More patterns leave less. -/
theorem stateErrors_sublist {patterns more : List IgnorePattern} (h : patterns ⊆ more)
    (request : Request) (infos : List MigrationInfo) :
    (InfoService.mk { request with ignorePatterns := more } infos).stateErrors.Sublist
      (InfoService.mk { request with ignorePatterns := patterns } infos).stateErrors := by
  have hcovers : ∀ i, IgnorePattern.anyCovers more i = false →
      IgnorePattern.anyCovers patterns i = false := by
    intro i hmore
    rw [InfoService.anyCovers_eq_false_iff] at hmore ⊢
    exact fun p hp => hmore p (h hp)
  -- what is left is made of the infos that the other patterns do not cover
  have hleft : ∀ i, InfoService.stateError? more i = if !IgnorePattern.anyCovers more i then
      InfoService.stateError? patterns i else none := by
    intro i
    unfold InfoService.stateError?
    cases ValidationError.Cause.ofState? i.state with
    | none => simp
    | some cause =>
      cases hmore : IgnorePattern.anyCovers more i with
      | true => rfl
      | false => simp [hcovers i hmore]
  rw [InfoService.stateErrors_eq, InfoService.stateErrors_eq,
    List.filterMap_congr fun i _ => hleft i, ← List.filterMap_filter]
  exact List.filter_sublist.filterMap _

/-- Where a pattern covers everything, nothing is left. -/
theorem stateErrors_eq_nil {patterns : List IgnorePattern}
    (h : IgnorePattern.everything ∈ patterns) (request : Request) (infos : List MigrationInfo) :
    (InfoService.mk { request with ignorePatterns := patterns } infos).stateErrors = [] := by
  have hnone : infos.filter (fun i => i.IsUnsilenced patterns) = [] := by
    refine List.filter_eq_nil_iff.2 fun i _ hi => ?_
    have hcovers := (of_decide_eq_true hi).2 _ h
    exact nomatch hcovers.symm.trans (IgnorePattern.everything_covers i)
  have hreported := forall₂_stateErrors
    (InfoService.mk { request with ignorePatterns := patterns } infos)
  rw [hnone] at hreported
  exact List.forall₂_nil_left_iff.1 hreported

/-! ### Rows whose script changed -/

/-- The row is listed as a success, and of the rows of its key that are it has the greatest
rank. -/
structure IsNewestSuccess (infos : List MigrationInfo) (r : AppliedMigration) : Prop where
  /-- The row is listed as a success. -/
  listed : ∃ i ∈ infos, i.applied = some r ∧ i.state = .success
  /-- No other success of its key has a greater rank. -/
  newest : ∀ i ∈ infos, ∀ q, i.applied = some q → i.state = .success →
    q.key.same r.key = true → q.installedRank ≤ r.installedRank

/-- The row is of a kind that scripts have, and neither checksum of the script is the one it
recorded. -/
structure IsOutOfDate (r : AppliedMigration) (m : ResolvedMigration) : Prop where
  /-- Behind a row of a synthetic kind there is no script. -/
  isSynthetic : r.kind.isSynthetic = false
  /-- The script has another checksum. -/
  checksum : r.checksum ≠ m.checksum
  /-- So has the script before placeholders are filled in, where that is known. -/
  equivalentChecksum : ∀ c, m.equivalentChecksum = some c → r.checksum ≠ some c

/-- The row is the newest success of its key, and out of date with the script of its key. -/
def IsChanged (ms : List ResolvedMigration) (infos : List MigrationInfo)
    (r : AppliedMigration) : Prop :=
  IsNewestSuccess infos r ∧ ∃ m ∈ ms, m.key.same r.key = true ∧ IsOutOfDate r m

/-- The error names a row and both checksums. -/
structure ValidationError.TellsChange (e : ValidationError) (r : AppliedMigration)
    (m : ResolvedMigration) : Prop where
  /-- The script is that of the row. -/
  script : e.script = r.script
  /-- The version is that of the row, as it is written there. -/
  version : e.version = r.version.map Version.text
  /-- The checksums are the recorded one and that of the script. -/
  cause : e.cause = .checksumMismatch r.checksum m.checksum

theorem ValidationError.tellsChange_iff {e : ValidationError} {r : AppliedMigration}
    {m : ResolvedMigration} : e.TellsChange r m ↔
      e = ⟨r.script, r.version.map Version.text, .checksumMismatch r.checksum m.checksum⟩ := by
  obtain ⟨script, version, cause⟩ := e
  rw [ValidationError.mk.injEq]
  exact ⟨fun h => ⟨h.script, h.version, h.cause⟩, fun h => ⟨h.1, h.2.1, h.2.2⟩⟩

section

variable {ms : List ResolvedMigration} {rows : List AppliedMigration} {r : AppliedMigration}

theorem isOutOfDate_iff {m : ResolvedMigration} :
    IsOutOfDate r m ↔ (r.kind.isSynthetic || m.checksumMatches r.checksum) = false := by
  rw [ResolvedMigration.checksumMatches]
  constructor
  · rintro ⟨hkind, hchecksum, hequivalent⟩
    cases he : m.equivalentChecksum with
    | none => simp [hkind, hchecksum]
    | some c => simp [hkind, hchecksum, hequivalent c he]
  · intro h
    simp only [Bool.or_eq_false_iff, Bool.and_eq_false_iff, beq_eq_false_iff_ne] at h
    obtain ⟨hkind, hchecksum, hequivalent⟩ := h
    refine ⟨hkind, hchecksum, fun c hc => ?_⟩
    simpa [hc] using hequivalent

/-- Which rows have an error about their checksum, and what it says. -/
theorem mismatchOf?_eq_some_iff (hkeys : DistinctKeys ms) {e : ValidationError} :
    mismatchOf? ms r = some e ↔
      ∃ m ∈ ms, m.key.same r.key = true ∧ IsOutOfDate r m ∧ e.TellsChange r m := by
  have hfound : mismatchOf? ms r = some e ↔
      ∃ m, migrationOf? ms r.key = some m ∧ IsOutOfDate r m ∧ e.TellsChange r m := by
    simp only [isOutOfDate_iff, ValidationError.tellsChange_iff]
    unfold mismatchOf?
    cases migrationOf? ms r.key with
    | none => simp
    | some m =>
      simp only [Option.some.injEq, exists_eq_left']
      cases r.kind.isSynthetic || m.checksumMatches r.checksum with
      | true => simp
      | false => simpa using eq_comm
  rw [hfound]
  simp only [migrationOf?_eq_some_iff hkeys, and_assoc]

/-- The rows that validation checks are the newest successes. -/
theorem isChecked_iff_isNewestSuccess (request : Request) :
    r ∈ rows ∧ IsChecked ms rows r ↔ IsNewestSuccess (infosOf ms rows request) r := by
  have hlisted : ∀ q, q ∈ rows ∧ appliedState ms rows q = .success ↔
      ∃ i ∈ infosOf ms rows request, i.applied = some q ∧ i.state = .success := by
    intro q
    constructor
    · rintro ⟨hq, hstate⟩
      exact ⟨_, mem_infosOf.2 (.inl ⟨q, hq, rfl⟩), rfl, hstate⟩
    · rintro ⟨i, hi, hq, hstate⟩
      have happlied : i.state.isApplied = true := hstate ▸ rfl
      obtain ⟨p, hp, rfl⟩ := exists_appliedInfo_of_isApplied hi happlied
      obtain rfl : p = q := Option.some.inj hq
      exact ⟨hp, hstate⟩
  constructor
  · rintro ⟨hr, hstate, hnewest⟩
    refine ⟨(hlisted r).1 ⟨hr, hstate⟩, fun i hi q hq hsuccess hk => ?_⟩
    obtain ⟨hmem, hqstate⟩ := (hlisted q).2 ⟨i, hi, hq, hsuccess⟩
    exact hnewest q hmem hqstate hk
  · rintro ⟨hr, hnewest⟩
    obtain ⟨hmem, hstate⟩ := (hlisted r).2 hr
    refine ⟨hmem, hstate, fun q hq hqstate hk => ?_⟩
    obtain ⟨i, hi, happlied, hsuccess⟩ := (hlisted q).1 ⟨hq, hqstate⟩
    exact hnewest i hi q happlied hsuccess hk

/-- The rows that validation finds changed. -/
def changedRows (ms : List ResolvedMigration) (rows : List AppliedMigration) :
    List AppliedMigration :=
  (rows.filter fun r => IsChecked ms rows r).filter fun r => (mismatchOf? ms r).isSome

theorem mem_changedRows (hkeys : DistinctKeys ms) {request : Request} :
    r ∈ changedRows ms rows ↔ IsChanged ms (infosOf ms rows request) r := by
  rw [changedRows, List.mem_filter, List.mem_filter, decide_eq_true_eq,
    isChecked_iff_isNewestSuccess request, IsChanged, Option.isSome_iff_exists]
  refine and_congr_right fun _ => ?_
  simp only [mismatchOf?_eq_some_iff hkeys, ValidationError.tellsChange_iff]
  constructor
  · rintro ⟨e, m, hm, hk, hdate, -⟩
    exact ⟨m, hm, hk, hdate⟩
  · rintro ⟨m, hm, hk, hdate⟩
    exact ⟨_, m, hm, hk, hdate, rfl⟩

/-- **The second part of a report: one error for each changed row.** -/
theorem forall₂_mismatches_infosOf (hkeys : DistinctKeys ms) (hasc : StrictlyAscending rows)
    (request : Request) :
    List.Forall₂ (fun r e => ∃ m ∈ ms, m.key.same r.key = true ∧ e.TellsChange r m)
      (changedRows ms rows) (InfoService.mk request (infosOf ms rows request)).mismatches := by
  rw [mismatches_infosOf hasc]
  refine (forall₂_filter_filterMap (fun _ => rfl) _).imp fun r e he => ?_
  obtain ⟨m, hm, hk, -, htells⟩ := (mismatchOf?_eq_some_iff hkeys).1 he
  exact ⟨m, hm, hk, htells⟩

/-- Of each key one row is reported at most. -/
theorem pairwise_changedRows (hasc : StrictlyAscending rows) :
    (changedRows ms rows).Pairwise fun a b => a.key.same b.key = false := by
  have hsub : (changedRows ms rows).Sublist rows := List.filter_sublist.trans List.filter_sublist
  refine (hasc.sublist hsub).imp_of_mem fun {a b} ha hb hlt => Bool.eq_false_iff.2 fun hk => ?_
  -- the one of the smaller rank would not be the newest
  obtain ⟨-, ha'⟩ := List.mem_filter.1 (List.mem_filter.1 ha).1
  obtain ⟨hb', hbchecked⟩ := List.mem_filter.1 (List.mem_filter.1 hb).1
  rw [Key.same_comm] at hk
  exact Int32.not_le.2 hlt
    ((of_decide_eq_true ha').2 b hb' (of_decide_eq_true hbchecked).1 hk)

end

namespace Plain

/-- The table ran twice and changed since, the second time under another spelling of its version;
a later version is gone, and the view failed. -/
def troubled : Ledger where
  rows := [row 1 (some one) "V1__table.sql" 9, row 2 (some two) "V2__gone.sql" 20,
    row 3 (some oneZero) "V1__table.sql" 8, { row 4 none "R__view.sql" 30 with success := false }]
  ascending := by decide

end Plain

/-- **Validation reports exactly what no pattern silences.**  Whatever the ledger hands out, rows
of distinct ranks, a snapshot for a request can be made, and the patterns of the request decide
nothing about its infos.  Its report has two parts.  The first one has one error for each info in
a state that is a problem and that none of the patterns covers, in the order of the infos.  The
second one, the same under all patterns, has one error for each row that is the newest success of
its key and out of date, in ascending order of rank.  Where patterns are added, the first part
only loses elements, and it is empty when everything is covered. -/
theorem validate_reports_unsilenced {ms : List ResolvedMigration} {rows : List AppliedMigration}
    (hkeys : DistinctKeys ms) (hranks : DistinctRanks rows) (request : Request) :
    ∃ (infos : List MigrationInfo) (changed : List AppliedMigration)
      (mismatches : List ValidationError),
      StrictlyAscending changed ∧ (∀ r, r ∈ changed ↔ IsChanged ms infos r) ∧
      changed.Pairwise (fun a b => a.key.same b.key = false) ∧
      List.Forall₂ (fun r e => ∃ m ∈ ms, m.key.same r.key = true ∧ e.TellsChange r m)
        changed mismatches ∧
      ∃ problems : List IgnorePattern → List ValidationError,
        (∀ (service : InfoService) (patterns : List IgnorePattern),
          let asked := { request with ignorePatterns := patterns }
          ∃ snapshot, service.refresh (.ok ms) (.ok rows) asked = (.ok (), snapshot) ∧
            snapshot.infos = infos ∧ snapshot.validate = problems patterns ++ mismatches ∧
            List.Forall₂ (fun i e => e.TellsState i)
              (infos.filter fun i => i.IsUnsilenced patterns) (problems patterns)) ∧
        (∀ patterns more, patterns ⊆ more → (problems more).Sublist (problems patterns)) ∧
        ∀ patterns, IgnorePattern.everything ∈ patterns → problems patterns = [] := by
  have hasc := strictlyAscending_sortByRank hranks
  have hsub : (changedRows ms (sortByRank rows)).Sublist (sortByRank rows) :=
    List.filter_sublist.trans List.filter_sublist
  let infos := infosOf ms (sortByRank rows) request
  refine ⟨infos, changedRows ms (sortByRank rows), (InfoService.mk request infos).mismatches,
    hasc.sublist hsub, fun r => mem_changedRows hkeys, pairwise_changedRows hasc,
    forall₂_mismatches_infosOf hkeys hasc request,
    fun patterns => (InfoService.mk { request with ignorePatterns := patterns } infos).stateErrors,
    fun service patterns => ?_, fun patterns more h => stateErrors_sublist h request infos,
    fun patterns h => stateErrors_eq_nil h request infos⟩
  exact ⟨_, refresh_of_distinctKeys hkeys service rows _, rfl, rfl,
    forall₂_stateErrors ⟨{ request with ignorePatterns := patterns }, infos⟩⟩

/-- Of the troubled ledger, validation finds the newer row of the table changed, under every
pattern; the version that is gone and the view are problems besides, the view not where nothing
about repeatable migrations matters. -/
theorem validate_reports_unsilenced_troubled :
    ∃ (problems : List IgnorePattern → List ValidationError) (mismatches : List ValidationError),
      (∀ patterns, ∃ snapshot, InfoService.refresh {} (.ok Plain.viewAndTable)
        (.ok Plain.troubled.rows) { ignorePatterns := patterns } = (.ok (), snapshot) ∧
        snapshot.validate = problems patterns ++ mismatches) ∧
      mismatches = [⟨"V1__table.sql", some "1.0", .checksumMismatch (some 8) (some 10)⟩] ∧
      problems [] = [⟨"V2__gone.sql", some "2", .future⟩, ⟨"R__view.sql", none, .failed⟩] ∧
      problems [⟨.repeatable, .any⟩] = [⟨"V2__gone.sql", some "2", .future⟩] ∧
      problems [IgnorePattern.everything] = [] := by
  have hkeys : DistinctKeys Plain.viewAndTable := by decide
  have hranks : DistinctRanks Plain.troubled.rows := by decide
  obtain ⟨infos, changed, mismatches, -, -, -, -, problems, hreport, -, hnothing⟩ :=
    validate_reports_unsilenced hkeys hranks {}
  -- both sides are in their order as they stand
  have hinfos : infosOf Plain.viewAndTable (sortByRank Plain.troubled.rows) {}
      = Plain.troubled.rows.map (appliedInfo Plain.viewAndTable Plain.troubled.rows) := by
    rw [sortByRank, sortBy_eq_self (by decide), infosOf, unapplied,
      sortBy_eq_self (l := Plain.viewAndTable) (by decide)]
    exact sortBy_eq_self (by decide)
  have hvalidate : ∀ patterns, problems patterns ++ mismatches
      = (InfoService.mk { ignorePatterns := patterns } (Plain.troubled.rows.map
          (appliedInfo Plain.viewAndTable Plain.troubled.rows))).validate := by
    intro patterns
    obtain ⟨snapshot, hrefresh, -, hsnapshot, -⟩ := hreport {} patterns
    rw [refresh_of_distinctKeys hkeys] at hrefresh
    obtain rfl := (Prod.mk.inj hrefresh).2
    rw [← hsnapshot, ← hinfos]
    rfl
  have hmismatches : mismatches
      = [⟨"V1__table.sql", some "1.0", .checksumMismatch (some 8) (some 10)⟩] := by
    have hall := hvalidate [IgnorePattern.everything]
    rw [hnothing _ List.mem_cons_self, List.nil_append] at hall
    exact hall.trans (by decide)
  refine ⟨problems, mismatches, fun patterns => ?_, hmismatches, ?_, ?_,
    hnothing _ List.mem_cons_self⟩
  · obtain ⟨snapshot, hrefresh, -, hsnapshot, -⟩ := hreport {} patterns
    exact ⟨snapshot, hrefresh, hsnapshot⟩
  · refine List.append_cancel_right ((hvalidate []).trans ?_)
    rw [hmismatches]
    decide
  · refine List.append_cancel_right ((hvalidate [⟨.repeatable, .any⟩]).trans ?_)
    rw [hmismatches]
    decide

end MigrationLedger
