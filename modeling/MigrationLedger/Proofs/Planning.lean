import MigrationLedger.Proofs.Listing

/-!
# Which migrations wait to run

A migration without a live row waits to run when the request allows it: it is picked, the
target admits its version, and no greater version is applied yet, unless the order does
not matter.  All of this is a matter of single rows: the greatest applied version is
greater than a given one exactly when some applied row's version is, and less than it
exactly when something is applied and every applied version is.

## Main definitions

* `IsApplied` — a successful row that is no tombstone, of a key that is not removed.
* `IsOvertaken` — an applied row has a greater version than the migration.
* `IsAhead` — a version is applied, and the migration is newer than every applied one.
* `Target.Admits`, `Request.Allows` — the target admits the migration; the request lets it run.

## Main results

* `any_newestApplied?_iff` — the greatest applied version is greater when any is.
* `exceeds_limit_eq_false_iff` — a version lies within the limit of the target that admits it.
* `isPending_plannedState_iff_allows` — **a migration without a live row waits to run exactly
  when the request allows it.**
* `plannedState_eq_aboveTarget_iff` — when it lies above the target instead.
* `mem_pending_infosOf` — **what waits to run**: the migrations without a live row that the
  request allows.
* `pending_infosOf` — a plan is a part of the migrations without a live row, in the order of keys.
-/

namespace MigrationLedger

/-- A successful row that is no tombstone, of a key whose newest row is none either. -/
structure IsApplied (rows : List AppliedMigration) (r : AppliedMigration) : Prop where
  /-- The row is one of the rows. -/
  mem : r ∈ rows
  /-- The row is successful. -/
  success : r.success = true
  /-- The row is no tombstone. -/
  not_tombstone : r.isTombstone = false
  /-- The newest row of its key is no tombstone. -/
  live : ∃ newest, IsNewestRow rows r.key newest ∧ newest.isTombstone = false

/-- An applied row has a greater version than the migration. -/
def IsOvertaken (rows : List AppliedMigration) (m : ResolvedMigration) : Prop :=
  ∃ r v w, IsApplied rows r ∧ m.version = some v ∧ r.version = some w ∧ compare v w = .lt

/-- An applied row has the version. -/
def IsAppliedVersion (rows : List AppliedMigration) (w : Version) : Prop :=
  ∃ r, IsApplied rows r ∧ r.version = some w

/-- Some version is applied, and the migration has a greater version than every applied one. -/
def IsAhead (rows : List AppliedMigration) (m : ResolvedMigration) : Prop :=
  ∃ v, m.version = some v ∧ (∃ w, IsAppliedVersion rows w) ∧
    ∀ w, IsAppliedVersion rows w → compare v w = .gt

/-- The target admits the migration.  The current target admits what is not newer than every
applied version, and everything when no version is applied. -/
def Target.Admits : Target → List AppliedMigration → ResolvedMigration → Prop
  | .latest, _, _ => True
  | .current, rows, m => ¬ IsAhead rows m
  | .version w, _, m => ∀ v, m.version = some v → compare v w ≠ .gt

/-- The request lets the migration run, if it has no live row. -/
structure Request.Allows (request : Request) (rows : List AppliedMigration)
    (m : ResolvedMigration) : Prop where
  /-- Where the request picks migrations, it picks this one. -/
  picked : isUnpicked request m = false
  /-- The target admits the migration. -/
  admitted : request.target.Admits rows m
  /-- Nothing newer is applied, or it does not matter. -/
  in_order : m.isRepeatable = true ∨ request.outOfOrder = true ∨ ¬ IsOvertaken rows m

variable {rows : List AppliedMigration} {m : ResolvedMigration} {request : Request}

theorem countsAsApplied_eq_true_iff (h : StrictlyAscending rows) {r : AppliedMigration}
    (hr : r ∈ rows) : countsAsApplied rows r = true ↔ IsApplied rows r := by
  unfold countsAsApplied
  rw [Bool.and_eq_true, Bool.and_eq_true, Bool.not_eq_true', isLive_eq_true_iff h]
  constructor
  · rintro ⟨⟨hsuccess, htomb⟩, hlive⟩
    exact ⟨hr, hsuccess, htomb, hlive⟩
  · intro happlied
    exact ⟨⟨happlied.success, happlied.not_tombstone⟩, happlied.live⟩

/-- The versions among which the greatest is sought are those of the applied rows. -/
theorem mem_filterMap_version_iff (h : StrictlyAscending rows) {w : Version} :
    w ∈ (rows.filter (countsAsApplied rows)).filterMap AppliedMigration.version ↔
      IsAppliedVersion rows w := by
  rw [List.mem_filterMap]
  constructor
  · rintro ⟨r, hr, hrw⟩
    obtain ⟨hmem, hcounts⟩ := List.mem_filter.1 hr
    exact ⟨r, (countsAsApplied_eq_true_iff h hmem).1 hcounts, hrw⟩
  · rintro ⟨r, happlied, hrw⟩
    have hcounts := (countsAsApplied_eq_true_iff h happlied.mem).2 happlied
    exact ⟨r, List.mem_filter.2 ⟨happlied.mem, hcounts⟩, hrw⟩

/-- The greatest applied version is greater than a version when that of an applied row is. -/
theorem any_newestApplied?_iff (h : StrictlyAscending rows) {v : Version} :
    ((newestApplied? rows).any fun newest => compare v newest == .lt) = true ↔
      ∃ w, IsAppliedVersion rows w ∧ compare v w = .lt := by
  have hmono : ∀ a b : Version, (compare a b).isLE = true →
      (compare v a == .lt) = true → (compare v b == .lt) = true := by
    intro a b hab hva
    rw [beq_iff_eq] at hva ⊢
    exact Std.TransCmp.lt_of_lt_of_isLE hva hab
  unfold newestApplied? greatestVersion?
  rw [any_greatestBy? hmono]
  simp only [mem_filterMap_version_iff h, beq_iff_eq]

/-- A version exceeds the greatest applied one when it exceeds all of them, and there is one. -/
theorem exceeds_newestApplied?_iff (h : StrictlyAscending rows) {v : Version} :
    exceeds v (newestApplied? rows) = true ↔
      (∃ w, IsAppliedVersion rows w) ∧ ∀ w, IsAppliedVersion rows w → compare v w = .gt := by
  have hanti : ∀ a b : Version, (compare a b).isLE = true →
      (compare v b == .gt) = true → (compare v a == .gt) = true := by
    intro a b hab hvb
    rw [beq_iff_eq] at hvb ⊢
    rw [Std.OrientedCmp.gt_iff_lt] at hvb ⊢
    exact Std.TransCmp.lt_of_isLE_of_lt hab hvb
  unfold exceeds newestApplied? greatestVersion?
  rw [any_greatestBy?_iff_forall hanti]
  simp only [mem_filterMap_version_iff h, beq_iff_eq]

/-! ### What a request allows -/

theorem isAhead_iff {v : Version} (hv : m.version = some v) :
    IsAhead rows m ↔ (∃ w, IsAppliedVersion rows w) ∧
      ∀ w, IsAppliedVersion rows w → compare v w = .gt := by
  simp [IsAhead, hv]

theorem isOvertaken_iff {v : Version} (hv : m.version = some v) :
    IsOvertaken rows m ↔ ∃ w, IsAppliedVersion rows w ∧ compare v w = .lt := by
  constructor
  · rintro ⟨r, v', w, happlied, hv', hrw, hvw⟩
    obtain rfl : v = v' := Option.some.inj (hv.symm.trans hv')
    exact ⟨w, ⟨r, happlied, hrw⟩, hvw⟩
  · rintro ⟨w, ⟨r, happlied, hrw⟩, hvw⟩
    exact ⟨r, v, w, happlied, hv, hrw, hvw⟩

/-- Every target admits a repeatable migration. -/
theorem Target.admits_of_version_eq_none (hv : m.version = none) (target : Target) :
    target.Admits rows m := by
  cases target with
  | latest => trivial
  | current => simp [Admits, IsAhead, hv]
  | version w => simp [Admits, hv]

/-- What the current target admits is no newer than some applied version, if there is one. -/
theorem exists_isAppliedVersion_of_admits {v : Version} (hv : m.version = some v)
    (hadmits : Target.current.Admits rows m) (hsome : ∃ w, IsAppliedVersion rows w) :
    ∃ w, IsAppliedVersion rows w ∧ (compare v w).isLE = true := by
  by_contra hnone
  refine hadmits ((isAhead_iff hv).2 ⟨hsome, fun w hw => ?_⟩)
  cases hvw : compare v w with
  | lt => exact absurd ⟨w, hw, by simp [hvw]⟩ hnone
  | eq => exact absurd ⟨w, hw, by simp [hvw]⟩ hnone
  | gt => rfl

/-- A version lies within the limit of a target when the target admits its migration. -/
theorem exceeds_limit_eq_false_iff (h : StrictlyAscending rows) {v : Version}
    (hv : m.version = some v) (target : Target) :
    exceeds v (target.limit (newestApplied? rows)) = false ↔ target.Admits rows m := by
  cases target with
  | latest => simp [Target.limit, exceeds, Target.Admits]
  | current =>
    rw [Target.Admits, isAhead_iff hv, ← exceeds_newestApplied?_iff h, Bool.not_eq_true]
    rfl
  | version w => simp [Target.limit, exceeds, Target.Admits, hv]

theorem isUnpicked_eq_false (h : request.cherryPick = []) : isUnpicked request m = false := by
  simp [isUnpicked, h]

/-- **A migration without a live row waits to run exactly when the request allows it.** -/
theorem isPending_plannedState_iff_allows (h : StrictlyAscending rows) :
    (plannedState request (newestApplied? rows) m).isPending = true ↔ request.Allows rows m := by
  cases hpick : isUnpicked request m with
  | true =>
    simp only [plannedState, hpick, if_true, MigrationState.isPending, Bool.false_eq_true,
      false_iff]
    intro hallows
    exact Bool.false_ne_true (hallows.picked.symm.trans hpick)
  | false =>
    cases hv : m.version with
    | none =>
      simp only [plannedState, hpick, hv, Bool.false_eq_true, if_false, MigrationState.isPending,
        true_iff]
      exact ⟨hpick, Target.admits_of_version_eq_none hv _, .inl (by
        simp [ResolvedMigration.isRepeatable, hv])⟩
    | some v =>
      have hlimit := exceeds_limit_eq_false_iff h hv request.target
      have hnot : m.isRepeatable = false := by simp [ResolvedMigration.isRepeatable, hv]
      have hovertaken := (any_newestApplied?_iff h).trans (isOvertaken_iff hv).symm
      simp only [plannedState, hpick, hv, Bool.false_eq_true, if_false]
      split
      · next hexceeds =>
        simp only [MigrationState.isPending, Bool.false_eq_true, false_iff]
        intro hallows
        exact Bool.false_ne_true ((hlimit.2 hallows.admitted).symm.trans hexceeds)
      · next hwithin =>
        have hadmits := hlimit.1 (Bool.eq_false_iff.2 hwithin)
        -- only an overtaken migration depends on the order
        split
        · next hnewer =>
          cases horder : request.outOfOrder with
          | true => simpa [MigrationState.isPending] using ⟨hpick, hadmits, .inr (.inl horder)⟩
          | false =>
            simp only [Bool.false_eq_true, if_false, MigrationState.isPending, false_iff]
            rintro ⟨-, -, hrep | hout | hfree⟩
            · exact Bool.false_ne_true (hnot.symm.trans hrep)
            · exact Bool.false_ne_true (horder.symm.trans hout)
            · exact hfree (hovertaken.1 hnewer)
        · next hnewer =>
          simp only [MigrationState.isPending, true_iff]
          exact ⟨hpick, hadmits, .inr (.inr fun hover => hnewer (hovertaken.2 hover))⟩

/-- A request that reaches as far as it can and picks nothing allows a migration when it is
repeatable, when the order does not matter, or when nothing applied has a greater version. -/
theorem Request.allows_iff_of_latest (htarget : request.target = .latest)
    (hpick : request.cherryPick = []) :
    request.Allows rows m ↔
      m.isRepeatable = true ∨ request.outOfOrder = true ∨ ¬ IsOvertaken rows m := by
  constructor
  · exact Request.Allows.in_order
  · intro horder
    exact ⟨isUnpicked_eq_false hpick, by rw [htarget]; trivial, horder⟩

/-! ### What waits to run -/

/-- A ledger row does not wait to run. -/
theorem isPending_appliedState (ms : List ResolvedMigration) (r : AppliedMigration) :
    (appliedState ms rows r).isPending = false := by
  unfold appliedState undiscoveredState
  repeat' split
  all_goals rfl

/-- **What waits to run**: the migrations without a live row that the request allows. -/
theorem mem_pending_infosOf (h : StrictlyAscending rows) {ms : List ResolvedMigration}
    {i : MigrationInfo} :
    i ∈ (InfoService.mk request (infosOf ms rows request)).pending ↔
      ∃ m ∈ ms, isLive rows m.key = false ∧ request.Allows rows m ∧
        MigrationInfo.planned m (plannedState request (newestApplied? rows) m) = i := by
  rw [InfoService.mem_pending, mem_infosOf]
  constructor
  · rintro ⟨⟨r, -, rfl⟩ | ⟨m, hm, hlive, rfl⟩, hpending⟩
    · exact absurd hpending (by simp [appliedInfo, isPending_appliedState])
    · exact ⟨m, hm, hlive, (isPending_plannedState_iff_allows h).1 hpending, rfl⟩
  · rintro ⟨m, hm, hlive, hallows, rfl⟩
    exact ⟨.inr ⟨m, hm, hlive, rfl⟩, (isPending_plannedState_iff_allows h).2 hallows⟩

/-- **A plan is a part of the migrations without a live row**, as they are in the order of their
keys. -/
theorem pending_infosOf {ms : List ResolvedMigration} (hkeys : DistinctKeys ms)
    (rows : List AppliedMigration) (request : Request) :
    (InfoService.mk request (infosOf ms rows request)).pending
      = ((unapplied ms rows).filter fun m =>
          (plannedState request (newestApplied? rows) m).isPending).map fun m =>
        MigrationInfo.planned m (plannedState request (newestApplied? rows) m) := by
  have happlied : (rows.map (appliedInfo ms rows)).filter (fun i => i.state.isPending) = [] := by
    simp [appliedInfo, isPending_appliedState]
  refine sortBy_eq_of_perm ?_ (((infosOf_perm ms rows request).filter _).trans ?_)
  · exact List.pairwise_map.2 ((pairwise_unapplied hkeys rows).filter _)
  · rw [List.filter_append, happlied, List.nil_append, List.filter_map]
    exact List.Perm.refl _

/-- A migration whose key is not live is listed once without a row, in the state that the request
plans for it, and waits to run exactly when the request allows it. -/
theorem refresh_of_not_isLive {ms : List ResolvedMigration} {handed : List AppliedMigration}
    (hkeys : DistinctKeys ms) (h : StrictlyAscending rows) (hm : m ∈ ms) {k : Key}
    (hk : m.key.same k = true) (hlive : isLive rows m.key = false) (hp : handed.Perm rows)
    (service : InfoService) (request : Request) :
    let state := plannedState request (newestApplied? rows) m
    ∃ infos,
      service.refresh (.ok ms) (.ok handed) request = (.ok (), ⟨request, infos⟩) ∧
      infos.filter (MigrationInfo.isUnappliedOf k) = [MigrationInfo.planned m state] ∧
      (MigrationInfo.planned m state ∈ (InfoService.mk request infos).pending ↔
        request.Allows rows m) := by
  refine ⟨infosOf ms rows request, refresh_eq_ok hkeys h hp service request,
    filter_isUnappliedOf hkeys hm hk hlive request, ?_⟩
  have hmem : MigrationInfo.planned m (plannedState request (newestApplied? rows) m)
      ∈ infosOf ms rows request := mem_infosOf.2 (.inr ⟨m, hm, hlive, rfl⟩)
  rw [InfoService.mem_pending, ← isPending_plannedState_iff_allows h]
  exact ⟨fun hpending => hpending.2, fun hpending => ⟨hmem, hpending⟩⟩

end MigrationLedger
