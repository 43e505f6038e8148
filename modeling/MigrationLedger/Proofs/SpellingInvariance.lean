import MigrationLedger.Proofs.Respelling

/-!
# No decision depends on a spelling

Rows are found by key, migrations too; keys are seen or not; the greatest version is a limit and a
mark; infos are sorted, picked and collected by key and by script.  All of this compares versions,
and spellings of one version compare alike.  So each step from migrations and rows to what a service
answers and to what a pass selects goes through a respelling: what it makes of respelled data is a
respelling of what it makes of the data.  No step needs keys or ranks to be distinct.

## Main definitions

* `Respelling.IsRespelledEntry` — the entries that validation collects, respelled.

## Main results

* `Respelling.appliedState_eq`, `Respelling.plannedState_eq` — **states do not depend on
  spellings.**
* `Respelling.forall₂_infosOf`, `Respelling.sameOutcome_pair` — **a snapshot lists the same infos in
  the same order**, or fails for the same script.
* `InfoService.IsRespelling.forall₂_pending`, `InfoService.IsRespelling.rel_current?`,
  `InfoService.IsRespelling.forall₂_validate` — the answers of a service are the same.
* `Respelling.isRespelling_selectDrifted` — so are the rows that have drifted.
-/

namespace MigrationLedger

namespace Respelling

/-! ### Rows -/

section

variable {rows others : List AppliedMigration} {r r' : AppliedMigration} {k l : Key}
  (hrows : List.Forall₂ AppliedMigration.IsRespelling rows others)
include hrows

theorem rel_newestRow? (hk : k.IsRespelling l) :
    Option.Rel AppliedMigration.IsRespelling (newestRow? rows k) (newestRow? others l) :=
  rel_getLast? (forall₂_filter (fun _ _ hr => hr.key.same_eq hk) hrows)

theorem isLive_eq (hk : k.IsRespelling l) : isLive rows k = isLive others l :=
  any_eq_of_rel (fun _ _ hr => by rw [hr.isTombstone_eq]) (rel_newestRow? hrows hk)

theorem isSuperseded_eq (hr : r.IsRespelling r') : isSuperseded rows r = isSuperseded others r' :=
  any_eq_of_rel
    (fun _ _ hn => by rw [hn.isTombstone_eq, hn.installedRank_eq, hr.installedRank_eq])
    (rel_newestRow? hrows hr.key)

theorem countsAsApplied_eq (hr : r.IsRespelling r') :
    countsAsApplied rows r = countsAsApplied others r' := by
  rw [countsAsApplied, countsAsApplied, hr.success_eq, hr.isTombstone_eq, isLive_eq hrows hr.key]

/-- The newest applied versions are the same, and which spelling is found may differ. -/
theorem rel_newestApplied? :
    Option.Rel Version.Same (newestApplied? rows) (newestApplied? others) :=
  rel_greatestBy? (fun _ _ hvw => hvw) <|
    forall₂_filterMap (fun _ _ hr => hr.version) <|
      forall₂_filter (fun _ _ hr => countsAsApplied_eq hrows hr) hrows

end

/-! ### Migrations -/

section

variable {ms ns : List ResolvedMigration} {k l : Key}
  (hms : List.Forall₂ ResolvedMigration.IsRespelling ms ns)
include hms

theorem rel_migrationOf? (hk : k.IsRespelling l) :
    Option.Rel ResolvedMigration.IsRespelling (migrationOf? ms k) (migrationOf? ns l) :=
  rel_find? (fun _ _ hm => hm.key.same_eq hk) hms

/-- Two migrations share a key when they do in another spelling. -/
theorem rel_firstDuplicate? {seen seen' : List Key}
    (hseen : List.Forall₂ Key.IsRespelling seen seen') :
    Option.Rel ResolvedMigration.IsRespelling (firstDuplicate? seen ms)
      (firstDuplicate? seen' ns) := by
  induction hms generalizing seen seen' with
  | nil => exact .none
  | cons hm _ ih =>
    rw [firstDuplicate?, firstDuplicate?,
      any_eq_of_forall₂ (fun _ _ hk => hk.same_eq hm.key) hseen]
    split
    · exact .some hm
    · exact ih (.cons hm.key hseen)

theorem rel_newestDiscovered? :
    Option.Rel Version.Same (newestDiscovered? ms) (newestDiscovered? ns) :=
  rel_greatestBy? (fun _ _ hvw => hvw) (forall₂_filterMap (fun _ _ hm => hm.version) hms)

end

/-! ### What versions are measured by -/

section

variable {m n : ResolvedMigration} {r r' : AppliedMigration} {request other : Request}
  {newest newest' : Option Version} (hnewest : Option.Rel Version.Same newest newest')

include hnewest in
theorem undiscoveredState_eq (hr : r.IsRespelling r') :
    undiscoveredState newest r = undiscoveredState newest' r' := by
  have hversion := hr.version
  unfold undiscoveredState
  generalize r.version = v, r'.version = w at hversion
  cases hversion with
  | none => rfl
  | some hvw =>
    cases hnewest with
    | none => rfl
    | some hnn => simp only [compare_congr hvw hnn]

include hnewest in
theorem exceeds_eq {v w : Version} (hvw : v.Same w) : exceeds v newest = exceeds w newest' :=
  any_eq_of_rel (fun _ _ hnn => by rw [compare_congr hvw hnn]) hnewest

/-- A pick that is read as a version picks every spelling of it. -/
theorem picks_eq (hm : m.IsRespelling n) (pick : String) : picks m pick = picks n pick := by
  unfold picks
  rw [hm.script_eq, any_eq_of_rel (fun v w hvw => ?_) hm.version]
  cases Version.parse? pick with
  | error _ => rfl
  | ok picked => simp only [Std.TransCmp.congr_right hvw]

theorem isUnpicked_eq (hrequest : request.IsRespelling other) (hm : m.IsRespelling n) :
    isUnpicked request m = isUnpicked other n := by
  have hpicks : request.cherryPick = other.cherryPick :=
    (congrArg Request.cherryPick hrequest.rest).symm
  rw [isUnpicked, isUnpicked, hpicks, funext (picks_eq hm)]

include hnewest in
theorem plannedState_eq (hrequest : request.IsRespelling other) (hm : m.IsRespelling n) :
    plannedState request newest m = plannedState other newest' n := by
  have horder : request.outOfOrder = other.outOfOrder :=
    (congrArg Request.outOfOrder hrequest.rest).symm
  have hversion := hm.version
  unfold plannedState
  rw [isUnpicked_eq hrequest hm, horder]
  generalize m.version = v, n.version = w at hversion
  cases hversion with
  | none => rfl
  | @some v w hvw =>
    have holder : (newest.any fun newest => compare v newest == .lt)
        = newest'.any fun newest => compare w newest == .lt :=
      any_eq_of_rel (fun _ _ hnn => by rw [compare_congr hvw hnn]) hnewest
    simp only [exceeds_eq (hrequest.target.limit hnewest) hvw, holder]

end

/-! ### Pairing -/

section

variable {ms ns : List ResolvedMigration} {rows others : List AppliedMigration}
  {r r' : AppliedMigration} {request other : Request}
  (hms : List.Forall₂ ResolvedMigration.IsRespelling ms ns)
  (hrows : List.Forall₂ AppliedMigration.IsRespelling rows others)
include hms hrows

theorem appliedState_eq (hr : r.IsRespelling r') :
    appliedState ms rows r = appliedState ns others r' := by
  rw [appliedState, appliedState, hr.isTombstone_eq, hr.success_eq, hr.kind_eq,
    isSuperseded_eq hrows hr, ← Option.not_isSome, ← Option.not_isSome,
    isSome_eq_of_rel (rel_migrationOf? hms hr.key),
    undiscoveredState_eq (rel_newestDiscovered? hms) hr]

theorem isRespelling_appliedInfo (hr : r.IsRespelling r') :
    (appliedInfo ms rows r).IsRespelling (appliedInfo ns others r') :=
  ⟨rel_migrationOf? hms hr.key, .some hr, appliedState_eq hms hrows hr⟩

theorem forall₂_unapplied :
    List.Forall₂ ResolvedMigration.IsRespelling (unapplied ms rows) (unapplied ns others) :=
  forall₂_filter (fun _ _ hm => by rw [isLive_eq hrows hm.key])
    (forall₂_sortBy (fun _ _ hm => hm.key.compare_eq) hms)

/-- **A snapshot lists the same infos in the same order.** -/
theorem forall₂_infosOf (hrequest : request.IsRespelling other) :
    List.Forall₂ MigrationInfo.IsRespelling (infosOf ms rows request)
      (infosOf ns others other) := by
  have happlied : List.Forall₂ MigrationInfo.IsRespelling (rows.map (appliedInfo ms rows))
      (others.map (appliedInfo ns others)) :=
    List.rel_map (fun _ _ hr => isRespelling_appliedInfo hms hrows hr) hrows
  have hplanned : List.Forall₂ MigrationInfo.IsRespelling
      ((unapplied ms rows).map fun m =>
        MigrationInfo.planned m (plannedState request (newestApplied? rows) m))
      ((unapplied ns others).map fun n =>
        MigrationInfo.planned n (plannedState other (newestApplied? others) n)) :=
    List.rel_map
      (fun _ _ hm => ⟨.some hm, .none, plannedState_eq (rel_newestApplied? hrows) hrequest hm⟩)
      (forall₂_unapplied hms hrows)
  exact forall₂_sortBy (fun _ _ hi => hi.compareRank_eq) (List.rel_append happlied hplanned)

theorem sameOutcome_pair (hrequest : request.IsRespelling other) :
    SameOutcome (List.Forall₂ MigrationInfo.IsRespelling) (pair ms rows request)
      (pair ns others other) := by
  have hduplicate := rel_firstDuplicate? hms .nil
  unfold pair
  generalize firstDuplicate? [] ms = d, firstDuplicate? [] ns = d' at hduplicate
  cases hduplicate with
  | none => exact .ok (forall₂_infosOf hms hrows hrequest)
  | some hm =>
    simp only [hm.script_eq]
    exact .error (.duplicate hm.version)

end

/-! ### Collected entries -/

/-- The entries show the same infos and the same rows. -/
def IsRespelledEntry (e f : MigrationInfo × AppliedMigration) : Prop :=
  e.1.IsRespelling f.1 ∧ e.2.IsRespelling f.2

theorem forall₂_newestPerKey {es fs : List (MigrationInfo × AppliedMigration)}
    (h : List.Forall₂ IsRespelledEntry es fs) :
    List.Forall₂ IsRespelledEntry (InfoService.newestPerKey es) (InfoService.newestPerKey fs) := by
  induction h with
  | nil => exact .nil
  | @cons e f es fs he hrest ih =>
    have hnewer : (es.any fun e' =>
          e'.2.key.same e.2.key && MigrationInfo.compareRank e.1 e'.1 == .lt)
        = fs.any fun f' => f'.2.key.same f.2.key && MigrationInfo.compareRank f.1 f'.1 == .lt :=
      any_eq_of_forall₂ (fun _ _ he' => by
        rw [he'.2.key.same_eq he.2.key,
          compare_congr he.1.compareRank_eq he'.1.compareRank_eq]) hrest
    rw [InfoService.newestPerKey, InfoService.newestPerKey, hnewer]
    split
    · exact ih
    · exact .cons he (forall₂_filter (fun _ _ he' => by rw [he'.2.key.same_eq he.2.key]) ih)

theorem rel_mismatch? {i j : MigrationInfo} {a b : AppliedMigration} (hi : i.IsRespelling j)
    (ha : a.IsRespelling b) :
    Option.Rel ValidationError.IsRespelling (InfoService.mismatch? i a)
      (InfoService.mismatch? j b) := by
  have hresolved := hi.resolved
  unfold InfoService.mismatch?
  generalize i.resolved = m, j.resolved = n at hresolved
  cases hresolved with
  | none => exact .none
  | some hm =>
    simp only [ha.kind_eq, ha.checksum_eq, hm.checksumMatches_eq, hm.checksum_eq]
    split
    · exact .none
    · exact .some (hi.ofInfo _)

end Respelling

/-! ### The info service -/

namespace InfoService.IsRespelling

open Respelling

variable {s t : InfoService} (h : s.IsRespelling t)
include h

theorem forall₂_pending : List.Forall₂ MigrationInfo.IsRespelling s.pending t.pending :=
  forall₂_sortBy (fun _ _ hi => hi.compareResolvedKey_eq)
    (forall₂_filter (fun _ _ hi => by rw [hi.state]) h.infos)

theorem forall₂_applied : List.Forall₂ MigrationInfo.IsRespelling s.applied t.applied :=
  forall₂_filter (fun _ _ hi => by rw [hi.state]) h.infos

theorem rel_current? : Option.Rel MigrationInfo.IsRespelling s.current? t.current? :=
  rel_greatestBy? (fun _ _ hi => hi.compareCurrent_eq)
    (forall₂_filter (fun _ _ hi => by rw [hi.state, isSome_eq_of_rel hi.version]) h.infos)

theorem forall₂_stateErrors :
    List.Forall₂ ValidationError.IsRespelling s.stateErrors t.stateErrors := by
  have hpatterns : s.request.ignorePatterns = t.request.ignorePatterns :=
    (congrArg Request.ignorePatterns h.request.rest).symm
  refine forall₂_filterMap (fun i j hij => ?_) h.infos
  have hcovers : IgnorePattern.anyCovers s.request.ignorePatterns i
      = IgnorePattern.anyCovers t.request.ignorePatterns j := by
    rw [IgnorePattern.anyCovers, IgnorePattern.anyCovers, hpatterns, funext hij.covers_eq]
  rw [hij.state, hcovers]
  cases ValidationError.Cause.ofState? j.state with
  | none => exact .none
  | some cause =>
    dsimp only
    split
    · exact .none
    · exact .some (hij.ofInfo cause)

theorem forall₂_successes : List.Forall₂ IsRespelledEntry s.successes t.successes := by
  refine forall₂_filterMap (fun i j hij => ?_) h.infos
  rw [hij.state]
  split
  · exact rel_map (fun _ _ ha => ⟨hij, ha⟩) hij.applied
  · exact .none

theorem forall₂_validate : List.Forall₂ ValidationError.IsRespelling s.validate t.validate :=
  List.rel_append h.forall₂_stateErrors <|
    forall₂_filterMap (fun _ _ he => rel_mismatch? he.1 he.2)
      (forall₂_newestPerKey h.forall₂_successes)

end InfoService.IsRespelling

/-! ### Drift -/

theorem MigrationInfo.IsRespelling.rel_matchedPair? {i j : MigrationInfo}
    (h : i.IsRespelling j) :
    Option.Rel MatchedPair.IsRespelling i.matchedPair? j.matchedPair? := by
  obtain ⟨m, a, state⟩ := i
  obtain ⟨n, b, state'⟩ := j
  obtain ⟨hresolved, happlied, -⟩ := h
  dsimp only at hresolved happlied
  cases hresolved with
  | none => exact .none
  | some hm =>
    cases happlied with
    | none => exact .none
    | some ha =>
      simp only [MigrationInfo.matchedPair?, ← hm.script_eq, ← ha.script_eq]
      split
      · exact .some ⟨hm, ha⟩
      · exact .none

namespace MatchedPair.IsRespelling

variable {p q : MatchedPair} (h : p.IsRespelling q)
include h

theorem script_eq : p.script = q.script := h.applied.script_eq

theorem rank_eq : p.rank = q.rank := h.applied.installedRank_eq

theorem compareNewest_eq : compareNewest p q = .eq :=
  compareLex_eq (compareOn_eq h.rank_eq.symm) (compareOn_eq h.script_eq.symm)

theorem isDrifted_eq (oneShotPrefix : Option String) :
    p.isDrifted oneShotPrefix = q.isDrifted oneShotPrefix := by
  rw [isDrifted, isDrifted, isOneShot, isOneShot, h.script_eq, h.applied.checksum_eq,
    h.resolved.checksum_eq, h.applied.isTombstone_eq]

end MatchedPair.IsRespelling

namespace Respelling

theorem forall₂_firstPerScript {ps qs : List MatchedPair}
    (hps : List.Forall₂ MatchedPair.IsRespelling ps qs) :
    List.Forall₂ MatchedPair.IsRespelling (firstPerScript ps) (firstPerScript qs) := by
  induction hps with
  | nil => exact .nil
  | cons hp _ ih =>
    exact .cons hp (forall₂_filter (fun _ _ hq => by rw [hq.script_eq, hp.script_eq]) ih)

section

variable {infos others : List MigrationInfo}
  (h : List.Forall₂ MigrationInfo.IsRespelling infos others)
include h

theorem forall₂_newestFirst :
    List.Forall₂ MatchedPair.IsRespelling (newestFirst infos) (newestFirst others) :=
  forall₂_sortBy (fun _ _ hp => hp.compareNewest_eq)
    (forall₂_filterMap (fun _ _ hi => hi.rel_matchedPair?) h)

theorem forall₂_driftedPairs (oneShotPrefix : Option String) :
    List.Forall₂ MatchedPair.IsRespelling (driftedPairs infos oneShotPrefix)
      (driftedPairs others oneShotPrefix) :=
  forall₂_filter (fun _ _ hp => hp.isDrifted_eq oneShotPrefix)
    (forall₂_firstPerScript (forall₂_newestFirst h))

theorem forall₂_supersededPairs (oneShotPrefix : Option String) :
    List.Forall₂ MatchedPair.IsRespelling (supersededPairs infos oneShotPrefix)
      (supersededPairs others oneShotPrefix) := by
  refine forall₂_filter (fun p q hp => ?_) (forall₂_newestFirst h)
  have holder : isOlderThanSome (driftedPairs infos oneShotPrefix) p
      = isOlderThanSome (driftedPairs others oneShotPrefix) q :=
    any_eq_of_forall₂ (fun _ _ hd => by rw [hd.script_eq, hp.script_eq, hd.rank_eq, hp.rank_eq])
      (forall₂_driftedPairs h oneShotPrefix)
  rw [hp.applied.isTombstone_eq, holder]

theorem isRespelling_selectDrifted (oneShotPrefix : Option String) :
    (selectDrifted infos oneShotPrefix).IsRespelling (selectDrifted others oneShotPrefix) where
  matched := (forall₂_newestFirst h).length_eq
  candidates := (forall₂_firstPerScript (forall₂_newestFirst h)).length_eq
  drifted := List.rel_map (fun _ _ hp => hp.applied) (forall₂_driftedPairs h oneShotPrefix)
  superseded := List.rel_map (fun _ _ hp => hp.applied) (forall₂_supersededPairs h oneShotPrefix)

end

end Respelling

end MigrationLedger
