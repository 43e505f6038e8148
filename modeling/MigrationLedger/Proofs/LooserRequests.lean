import MigrationLedger.Proofs.Completeness
import MigrationLedger.Proofs.CurrentTarget

/-!
# Looser requests

The plan of a snapshot holds the migrations without a live row that the request lets run, in the
order of their keys.  Which migrations have no live row is no matter of the request, so that plans
for several requests are parts of one list, taken by the states that the requests give.  A request
looks at its picks, its target and its order one after the other, and the first of them that holds
a migration back decides its state.  Still, each of them can be loosened alone: what waited to run
waits to run, in the same state and in the same order, with more beside it.

Where the order no longer matters, what is new was ignored and is out of order now.  A target that
reaches further takes nothing away.  Picks take away whatever they do not name.

Nothing of this needs distinct ranks.

## Main definitions

* `MigrationInfo.IsNamedBy` — one of the picks is the script, or a spelling of the version.

## Main results

* `pending_sublist_pending` — a request that keeps the states of what waits keeps the plan.
* `plannedState_of_order`, `plannedState_of_target`, `plannedState_of_picks` — what becomes of a
  state when a part of the request is loosened.
* `looser_request_extends_plan` — **a looser request only adds to the plan, in its order.**
-/

namespace MigrationLedger

/-! ### Names of migrations -/

theorem picks_eq_true_iff {m : ResolvedMigration} {name : String} :
    picks m name = true ↔ name = m.script ∨
      ∃ v w, m.version = some v ∧ Version.parse? name = .ok w ∧ compare w v = .eq := by
  rw [picks, Bool.or_eq_true, beq_iff_eq]
  refine or_congr_right ?_
  cases m.version with
  | none => simp
  | some v => cases Version.parse? name <;> simp

/-- One of the names is the script, or reads as the version in some spelling. -/
def MigrationInfo.IsNamedBy (names : List String) (i : MigrationInfo) : Prop :=
  ∃ name ∈ names, name = i.script ∨
    ∃ v w, i.version = some v ∧ Version.parse? name = .ok w ∧ compare w v = .eq

instance (names : List String) (i : MigrationInfo) : Decidable (i.IsNamedBy names) :=
  decidable_of_iff (∃ name ∈ names, name = i.script ∨
      ∃ v ∈ i.version, ∃ w ∈ (Version.parse? name).toOption, compare w v = .eq) <| by
    have hread : ∀ (name : String) (w : Version),
        w ∈ (Version.parse? name).toOption ↔ Version.parse? name = .ok w := by
      intro name w
      cases Version.parse? name <;> simp [Except.toOption]
    simp only [MigrationInfo.IsNamedBy, hread, Option.mem_def, exists_and_left]

section

variable {ms : List ResolvedMigration} {rows : List AppliedMigration} {request : Request}

/-- The names are looked up as picks are. -/
theorem isNamedBy_planned_iff {names : List String} {m : ResolvedMigration}
    {state : MigrationState} :
    (MigrationInfo.planned m state).IsNamedBy names ↔ names.any (picks m) = true := by
  simp only [List.any_eq_true, picks_eq_true_iff]
  rfl

/-! ### Plans as parts of one list -/

/-- **A request that keeps the states of what waits keeps the plan**, and may only add to it. -/
theorem pending_sublist_pending (hkeys : DistinctKeys ms) {strict loose : Request}
    (h : ∀ m, (plannedState strict (newestApplied? rows) m).isPending = true →
      plannedState loose (newestApplied? rows) m = plannedState strict (newestApplied? rows) m) :
    (InfoService.mk strict (infosOf ms rows strict)).pending.Sublist
      (InfoService.mk loose (infosOf ms rows loose)).pending := by
  rw [pending_infosOf hkeys, pending_infosOf hkeys]
  have hsame : ∀ m ∈ (unapplied ms rows).filter fun m =>
      (plannedState strict (newestApplied? rows) m).isPending,
      MigrationInfo.planned m (plannedState strict (newestApplied? rows) m)
        = MigrationInfo.planned m (plannedState loose (newestApplied? rows) m) := by
    intro m hm
    rw [h m (List.mem_filter.1 hm).2]
  rw [List.map_congr_left hsame]
  refine (List.monotone_filter_right _ fun m hm => ?_).map _
  rw [h m hm]
  exact hm

/-! ### What becomes of a state -/

variable {newest : Option Version} {m : ResolvedMigration}

/-- Where the order matters, what would be out of order is ignored, and everything else is as it
is where the order does not matter. -/
theorem plannedState_of_order (request : Request) (newest : Option Version)
    (m : ResolvedMigration) :
    plannedState { request with outOfOrder := false } newest m
      = if plannedState { request with outOfOrder := true } newest m = .outOfOrder then .ignored
        else plannedState { request with outOfOrder := true } newest m := by
  have hunpicked : isUnpicked { request with outOfOrder := false } m
      = isUnpicked { request with outOfOrder := true } m := rfl
  unfold plannedState
  rw [hunpicked]
  cases isUnpicked { request with outOfOrder := true } m with
  | true => rfl
  | false =>
    cases m.version with
    | none => rfl
    | some v =>
      simp only [Bool.false_eq_true, if_false]
      cases exceeds v (request.target.limit newest) with
      | true => rfl
      | false => cases newest.any fun newest => compare v newest == .lt <;> rfl

/-- What waits under a target waits in the same state under one that holds nothing more back. -/
theorem plannedState_of_target {target : Target}
    (hreach : ∀ v, exceeds v (target.limit newest) = true →
      exceeds v (request.target.limit newest) = true)
    (hwaits : (plannedState request newest m).isPending = true) :
    plannedState { request with target := target } newest m = plannedState request newest m := by
  have hunpicked : isUnpicked { request with target := target } m = isUnpicked request m := rfl
  unfold plannedState at hwaits ⊢
  rw [hunpicked]
  cases hpick : isUnpicked request m with
  | true => rfl
  | false =>
    rw [hpick] at hwaits
    cases hv : m.version with
    | none => rfl
    | some v =>
      simp only [hv, Bool.false_eq_true, if_false] at hwaits ⊢
      -- what waits is within the limit, and so within the other one
      split at hwaits
      · exact nomatch hwaits
      · next hwithin => rw [if_neg hwithin, if_neg fun hexceeds => hwithin (hreach v hexceeds)]

/-- Picks ignore what they do not name, and leave the state of the rest alone. -/
theorem plannedState_of_picks {names : List String} (hnames : names ≠ []) (request : Request)
    (newest : Option Version) (m : ResolvedMigration) :
    plannedState { request with cherryPick := names } newest m
      = if names.any (picks m) then plannedState { request with cherryPick := [] } newest m
        else .ignored := by
  have hsome : names.isEmpty = false := List.isEmpty_eq_false_iff.2 hnames
  have hunpicked : isUnpicked { request with cherryPick := names } m = !names.any (picks m) := by
    simp [isUnpicked, hsome]
  have hfree : isUnpicked { request with cherryPick := [] } m = false := isUnpicked_eq_false rfl
  rw [plannedState, plannedState, hunpicked, hfree]
  cases names.any (picks m) <;> rfl

/-- What waits only where the order does not matter was ignored and is out of order. -/
theorem mem_pending_of_order_iff {i : MigrationInfo} :
    (i ∈ (InfoService.mk { request with outOfOrder := true }
        (infosOf ms rows { request with outOfOrder := true })).pending ∧
      i ∉ (InfoService.mk { request with outOfOrder := false }
        (infosOf ms rows { request with outOfOrder := false })).pending) ↔
      i ∈ infosOf ms rows { request with outOfOrder := true } ∧ i.state = .outOfOrder ∧
        { i with state := .ignored } ∈ infosOf ms rows { request with outOfOrder := false } := by
  rw [InfoService.mem_pending, InfoService.mem_pending]
  constructor
  · rintro ⟨⟨hi, hwaits⟩, hnew⟩
    rcases mem_infosOf.1 hi with ⟨r, -, rfl⟩ | ⟨m, hm, hlive, rfl⟩
    · exact absurd ((isPending_appliedState ms r).symm.trans hwaits) Bool.false_ne_true
    · have hstrict := plannedState_of_order request (newestApplied? rows) m
      -- any other state that waits does so already where the order matters
      by_cases hstate : plannedState { request with outOfOrder := true } (newestApplied? rows) m
          = .outOfOrder
      · rw [if_pos hstate] at hstrict
        exact ⟨hi, hstate, mem_infosOf.2 (.inr ⟨m, hm, hlive, by rw [hstrict]; rfl⟩)⟩
      · rw [if_neg hstate] at hstrict
        exact absurd ⟨mem_infosOf.2 (.inr ⟨m, hm, hlive, by rw [hstrict]⟩), hwaits⟩ hnew
  · rintro ⟨hi, hstate, -⟩
    refine ⟨⟨hi, by rw [hstate]; rfl⟩, ?_⟩
    rintro ⟨hi', -⟩
    obtain ⟨m, -, -, rfl⟩ := exists_planned_of_isApplied_eq_false hi' (by rw [hstate]; rfl)
    have hstrict := plannedState_of_order request (newestApplied? rows) m
    rw [show plannedState { request with outOfOrder := false } _ m = .outOfOrder from hstate]
      at hstrict
    split at hstrict
    · exact nomatch hstrict
    · next hloose => exact hloose hstrict.symm

/-- A plan is kept where the order no longer matters. -/
theorem pending_sublist_of_order (hkeys : DistinctKeys ms) (request : Request) :
    (InfoService.mk { request with outOfOrder := false }
        (infosOf ms rows { request with outOfOrder := false })).pending.Sublist
      (InfoService.mk { request with outOfOrder := true }
        (infosOf ms rows { request with outOfOrder := true })).pending := by
  refine pending_sublist_pending hkeys fun m hwaits => ?_
  rw [plannedState_of_order] at hwaits ⊢
  split at hwaits
  · exact nomatch hwaits
  · next hstate => rw [if_neg hstate]

/-- What exceeds a version exceeds every version that is not greater. -/
theorem exceeds_of_isLE {u v w : Version} (hvw : (compare v w).isLE = true)
    (hu : exceeds u (some w) = true) : exceeds u (some v) = true := by
  simp only [exceeds, Option.any_some, beq_iff_eq] at hu ⊢
  rw [Std.OrientedCmp.gt_iff_lt] at hu ⊢
  exact Std.TransCmp.lt_of_isLE_of_lt hvw hu

/-- A target that reaches further keeps the plan. -/
theorem pending_sublist_of_target (hkeys : DistinctKeys ms) (request : Request) {target : Target}
    (hreach : ∀ v, exceeds v (target.limit (newestApplied? rows)) = true →
      exceeds v (request.target.limit (newestApplied? rows)) = true) :
    (InfoService.mk request (infosOf ms rows request)).pending.Sublist
      (InfoService.mk { request with target := target }
        (infosOf ms rows { request with target := target })).pending :=
  pending_sublist_pending hkeys fun _ hwaits => plannedState_of_target hreach hwaits

/-- Picks keep what they name of the plan without picks. -/
theorem pending_of_picks (hkeys : DistinctKeys ms) {names : List String} (hnames : names ≠ []) :
    (InfoService.mk { request with cherryPick := names }
        (infosOf ms rows { request with cherryPick := names })).pending
      = (InfoService.mk { request with cherryPick := [] }
          (infosOf ms rows { request with cherryPick := [] })).pending.filter fun i =>
            i.IsNamedBy names := by
  have hstate := plannedState_of_picks hnames request (newestApplied? rows)
  rw [pending_infosOf hkeys, pending_infosOf hkeys, List.filter_map, List.filter_filter]
  have hfilter : ∀ m ∈ unapplied ms rows,
      (plannedState { request with cherryPick := names } (newestApplied? rows) m).isPending
        = (decide ((MigrationInfo.planned m (plannedState { request with cherryPick := [] }
            (newestApplied? rows) m)).IsNamedBy names) &&
          (plannedState { request with cherryPick := [] } (newestApplied? rows) m).isPending) := by
    intro m _
    rw [hstate]
    cases hnamed : names.any (picks m) with
    | true => simp [isNamedBy_planned_iff, hnamed]
    | false => simp [isNamedBy_planned_iff, hnamed, MigrationState.isPending]
  rw [List.filter_congr hfilter]
  -- what is named has the state that it has without picks
  refine List.map_congr_left fun m hm => ?_
  have hnamed := isNamedBy_planned_iff.1
    (of_decide_eq_true (Bool.and_eq_true_iff.1 (List.mem_filter.1 hm).2).1)
  rw [hstate, if_pos hnamed]

end

/-- **A looser request only adds to the plan, in its order.**  Whatever the ledger hands out, a plan
is extended where the order no longer matters, by what was ignored and is out of order now; it is
extended where the target is raised to a version that is not less, or reaches to everything; and
with picks it is what they name of the plan without picks. -/
theorem looser_request_extends_plan {ms : List ResolvedMigration} (hkeys : DistinctKeys ms)
    (handed : List AppliedMigration) :
    ∃ snapshot : Request → InfoService,
      (∀ (service : InfoService) (request : Request),
        service.refresh (.ok ms) (.ok handed) request = (.ok (), snapshot request)) ∧
      (∀ request : Request,
        let strict := snapshot { request with outOfOrder := false }
        let loose := snapshot { request with outOfOrder := true }
        strict.pending.Sublist loose.pending ∧
        ∀ i, (i ∈ loose.pending ∧ i ∉ strict.pending) ↔
          i ∈ loose.infos ∧ i.state = .outOfOrder ∧ { i with state := .ignored } ∈ strict.infos) ∧
      (∀ (request : Request) (v w : Version), (compare v w).isLE = true →
        (snapshot { request with target := .version v }).pending.Sublist
          (snapshot { request with target := .version w }).pending) ∧
      (∀ request : Request, (snapshot request).pending.Sublist
        (snapshot { request with target := .latest }).pending) ∧
      ∀ (request : Request) (names : List String), names ≠ [] →
        (snapshot { request with cherryPick := names }).pending
          = (snapshot { request with cherryPick := [] }).pending.filter fun i =>
              i.IsNamedBy names := by
  refine ⟨fun request => ⟨request, infosOf ms (sortByRank handed) request⟩,
    fun service request => refresh_of_distinctKeys hkeys service handed request,
    fun request => ⟨pending_sublist_of_order hkeys request, fun i => mem_pending_of_order_iff⟩,
    fun request v w hvw => ?_, fun request => ?_,
    fun request names hnames => pending_of_picks hkeys hnames⟩
  · exact pending_sublist_of_target hkeys { request with target := .version v }
      fun u hu => exceeds_of_isLE hvw hu
  · exact pending_sublist_of_target hkeys request fun u hu => absurd hu Bool.false_ne_true

/-- Where only the second version ran, the first one waits once the order no longer matters, and a
pick that spells its version in another way names it. -/
theorem looser_request_extends_plan_skipped :
    let first := MigrationInfo.planned (Plain.migration (some Plain.one) "V1__table.sql" 10)
      .outOfOrder
    ∃ ordered free picked : List MigrationInfo,
      InfoService.refresh {} (.ok Plain.versions) (.ok Plain.skipped.rows) {}
        = (.ok (), ⟨{}, ordered⟩) ∧
      InfoService.refresh {} (.ok Plain.versions) (.ok Plain.skipped.rows)
        { outOfOrder := true } = (.ok (), ⟨{ outOfOrder := true }, free⟩) ∧
      InfoService.refresh {} (.ok Plain.versions) (.ok Plain.skipped.rows)
        { outOfOrder := true, cherryPick := ["1.0"] }
          = (.ok (), ⟨{ outOfOrder := true, cherryPick := ["1.0"] }, picked⟩) ∧
      first ∉ (InfoService.mk {} ordered).pending ∧
      first ∈ (InfoService.mk { outOfOrder := true } free).pending ∧
      first ∈ (InfoService.mk { outOfOrder := true, cherryPick := ["1.0"] } picked).pending := by
  intro first
  have hkeys : DistinctKeys Plain.versions := by decide
  have hsorted : sortByRank Plain.skipped.rows = Plain.skipped.rows := sortBy_eq_self (by decide)
  obtain ⟨snapshot, hrefresh, horder, -, -, hpicks⟩ :=
    looser_request_extends_plan hkeys Plain.skipped.rows
  have hsnapshot : ∀ request,
      snapshot request = ⟨request, infosOf Plain.versions Plain.skipped.rows request⟩ := by
    intro request
    rw [← hsorted]
    exact congrArg Prod.snd ((hrefresh {} request).symm.trans
      (refresh_of_distinctKeys hkeys {} Plain.skipped.rows request))
  obtain ⟨-, hnew⟩ := horder {}
  have hfirst := (hnew first).2 (by
    simp only [hsnapshot]
    exact ⟨mem_infosOf.2 (.inr ⟨_, List.mem_cons_self, by decide, by decide⟩), rfl,
      mem_infosOf.2 (.inr ⟨_, List.mem_cons_self, by decide, by decide⟩)⟩)
  have hpicked : first ∈ (snapshot { outOfOrder := true, cherryPick := ["1.0"] }).pending := by
    rw [hpicks { outOfOrder := true } ["1.0"] (by decide)]
    exact List.mem_filter.2 ⟨hfirst.1, by decide⟩
  simp only [hsnapshot] at hfirst hpicked hrefresh
  exact ⟨_, _, _, hrefresh {} _, hrefresh {} _, hrefresh {} _, hfirst.2, hfirst.1, hpicked⟩

end MigrationLedger
