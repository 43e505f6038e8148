import MigrationLedger.InfoService
import MigrationLedger.Proofs.Rows

/-!
# What a snapshot lists

A snapshot of migrations with distinct keys succeeds, whichever request it is made
for, and does not depend on the order in which the rows are handed out.  It lists every
row, and every migration whose key is not live, once.

## Main definitions

* `DistinctKeys` — no two migrations share a key.
* `MigrationInfo.isUnappliedOf` — an info lists the migration of a key without a row.

## Main results

* `migrationOf?_eq_some_iff` — the discovered migration of a key.
* `refresh_eq_ok` — a snapshot of migrations with distinct keys succeeds.
* `pairwise_unapplied` — the migrations without a live row are in the order of their keys.
* `mem_infosOf` — what a snapshot lists.
* `filter_isUnappliedOf` — a migration whose key is not live is listed once without a row.
-/

namespace MigrationLedger

/-- No two migrations have the same key. -/
def DistinctKeys (ms : List ResolvedMigration) : Prop :=
  ms.Pairwise fun m n => m.key.same n.key = false

instance (ms : List ResolvedMigration) : Decidable (DistinctKeys ms) :=
  inferInstanceAs (Decidable (List.Pairwise _ _))

/-! ### The migration of a key -/

/-- A key may be replaced by one that names the same migration. -/
theorem Key.same_congr_right {a b c : Key} (h : b.same c = true) : a.same b = a.same c := by
  rw [Bool.eq_iff_iff]
  constructor
  · intro hab
    exact Key.same_trans hab h
  · intro hac
    rw [Key.same_comm] at h
    exact Key.same_trans hac h

theorem Key.script_eq_of_same {a b : Key} (h : a.same b = true) : a.script = b.script :=
  (Key.compare_eq_iff.1 (Key.same_eq_true_iff.1 h)).2

theorem migrationOf?_congr {ms : List ResolvedMigration} {k k' : Key} (h : k.same k' = true) :
    migrationOf? ms k = migrationOf? ms k' := by
  unfold migrationOf?
  congr 1
  funext m
  exact Key.same_congr_right h

theorem DistinctKeys.eq_of_same {ms : List ResolvedMigration} (h : DistinctKeys ms)
    {m n : ResolvedMigration} (hm : m ∈ ms) (hn : n ∈ ms) (hmn : m.key.same n.key = true) :
    m = n := by
  have hsymm : Std.Symm fun m n : ResolvedMigration => m.key.same n.key = false :=
    ⟨fun m n h => by rwa [Key.same_comm]⟩
  by_contra hne
  rw [List.Pairwise.forall h hm hn hne] at hmn
  exact Bool.false_ne_true hmn

theorem DistinctKeys.nodup {ms : List ResolvedMigration} (h : DistinctKeys ms) : ms.Nodup := by
  refine List.Pairwise.imp (fun {m n} hmn heq => ?_) h
  subst heq
  simp at hmn

/-- No two migrations compare as equal by their keys. -/
theorem DistinctKeys.compare_key_ne {ms : List ResolvedMigration} (h : DistinctKeys ms) :
    ms.Pairwise fun m n => compare m.key n.key ≠ .eq :=
  h.imp fun hmn heq => Bool.eq_false_iff.1 hmn (Key.same_eq_true_iff.2 heq)

/-- The discovered migration of a key. -/
theorem migrationOf?_eq_some_iff {ms : List ResolvedMigration} (h : DistinctKeys ms) {k : Key}
    {m : ResolvedMigration} : migrationOf? ms k = some m ↔ m ∈ ms ∧ m.key.same k = true := by
  have hfound : ∀ n, migrationOf? ms k = some n → n ∈ ms ∧ n.key.same k = true := by
    intro n hn
    unfold migrationOf? at hn
    exact ⟨List.mem_of_find?_eq_some hn, by simpa using List.find?_some hn⟩
  constructor
  · exact hfound m
  · rintro ⟨hm, hk⟩
    cases hf : migrationOf? ms k with
    | none => exact absurd hk (List.find?_eq_none.1 hf m hm)
    | some n =>
      obtain ⟨hn, hnk⟩ := hfound n hf
      rw [Key.same_comm] at hk
      exact congrArg some (h.eq_of_same hn hm (Key.same_trans hnk hk))

/-! ### Making a snapshot -/

theorem firstDuplicate?_eq_none_iff {seen : List Key} {ms : List ResolvedMigration} :
    firstDuplicate? seen ms = none ↔
      DistinctKeys ms ∧ ∀ k ∈ seen, ∀ m ∈ ms, k.same m.key = false := by
  induction ms generalizing seen with
  | nil => simp [firstDuplicate?, DistinctKeys]
  | cons m ms ih =>
    unfold firstDuplicate?
    split
    · next hseen =>
      obtain ⟨k, hk, hkm⟩ := List.any_eq_true.1 hseen
      simp only [reduceCtorEq, false_iff, not_and, not_forall]
      exact fun _ => ⟨k, hk, m, List.mem_cons_self, by simp [hkm]⟩
    · next hseen =>
      -- the key is new, so what is seen of the rest also keeps apart from it
      have hfresh : ∀ k ∈ seen, k.same m.key = false := fun k hk =>
        Bool.eq_false_iff.2 fun hkm => hseen (List.any_eq_true.2 ⟨k, hk, hkm⟩)
      rw [ih, DistinctKeys, DistinctKeys, List.pairwise_cons]
      constructor
      · rintro ⟨hms, hcons⟩
        refine ⟨⟨hcons m.key List.mem_cons_self, hms⟩, fun k hk n hn => ?_⟩
        rcases List.mem_cons.1 hn with rfl | hn
        · exact hfresh k hk
        · exact hcons k (List.mem_cons_of_mem _ hk) n hn
      · rintro ⟨⟨hm, hms⟩, hcons⟩
        refine ⟨hms, fun k hk n hn => ?_⟩
        rcases List.mem_cons.1 hk with rfl | hk
        · exact hm n hn
        · exact hcons k hk n (List.mem_cons_of_mem _ hn)

theorem pair_eq_ok {ms : List ResolvedMigration} (h : DistinctKeys ms)
    (rows : List AppliedMigration) (request : Request) :
    pair ms rows request = .ok (infosOf ms rows request) := by
  have hnone : firstDuplicate? [] ms = none := firstDuplicate?_eq_none_iff.2 ⟨h, by simp⟩
  simp [pair, hnone]

/-- A snapshot of migrations with distinct keys succeeds, in whichever order the rows are
handed out. -/
theorem refresh_eq_ok {ms : List ResolvedMigration} {rows handed : List AppliedMigration}
    (hkeys : DistinctKeys ms) (hrows : StrictlyAscending rows) (hp : handed.Perm rows)
    (service : InfoService) (request : Request) :
    service.refresh (.ok ms) (.ok handed) request
      = (.ok (), ⟨request, infosOf ms rows request⟩) := by
  simp [InfoService.refresh, sortByRank_eq_of_perm hrows hp, pair_eq_ok hkeys]

theorem load_eq_ok {ms : List ResolvedMigration} {rows handed : List AppliedMigration}
    (hkeys : DistinctKeys ms) (hrows : StrictlyAscending rows) (hp : handed.Perm rows)
    (request : Request) :
    InfoService.load (.ok ms) (.ok handed) request
      = .ok ⟨request, infosOf ms rows request⟩ := by
  simp [InfoService.load, refresh_eq_ok hkeys hrows hp]

/-! ### What is listed -/

theorem infosOf_perm (ms : List ResolvedMigration) (rows : List AppliedMigration)
    (request : Request) :
    (infosOf ms rows request).Perm (rows.map (appliedInfo ms rows)
      ++ (unapplied ms rows).map fun m =>
        MigrationInfo.planned m (plannedState request (newestApplied? rows) m)) :=
  sortBy_perm _ _

theorem unapplied_perm (ms : List ResolvedMigration) (rows : List AppliedMigration) :
    (unapplied ms rows).Perm (ms.filter fun m => !isLive rows m.key) :=
  (sortBy_perm _ ms).filter _

@[simp] theorem mem_unapplied {ms : List ResolvedMigration} {rows : List AppliedMigration}
    {m : ResolvedMigration} : m ∈ unapplied ms rows ↔ m ∈ ms ∧ isLive rows m.key = false := by
  simp [unapplied]

/-- The migrations without a live row are in the strict order of their keys. -/
theorem pairwise_unapplied {ms : List ResolvedMigration} (hkeys : DistinctKeys ms)
    (rows : List AppliedMigration) :
    (unapplied ms rows).Pairwise fun m n => compare m.key n.key = .lt := by
  have hsorted : (sortBy (compareOn ResolvedMigration.key) ms).Pairwise fun m n =>
      compareOn ResolvedMigration.key m n = .lt := pairwise_lt_sortBy hkeys.compare_key_ne
  exact hsorted.filter _

/-- A snapshot lists every row, and every migration whose key is not live. -/
theorem mem_infosOf {ms : List ResolvedMigration} {rows : List AppliedMigration}
    {request : Request} {i : MigrationInfo} :
    i ∈ infosOf ms rows request ↔
      (∃ r ∈ rows, appliedInfo ms rows r = i) ∨
        ∃ m ∈ ms, isLive rows m.key = false ∧
          MigrationInfo.planned m (plannedState request (newestApplied? rows) m) = i := by
  simp [(infosOf_perm ms rows request).mem_iff, and_assoc]

/-- The info lists the migration of the key without a row. -/
def MigrationInfo.isUnappliedOf (k : Key) (i : MigrationInfo) : Bool :=
  i.applied.isNone && i.resolved.any fun m => m.key.same k

/-- A migration whose key is not live is listed exactly once without a row. -/
theorem filter_isUnappliedOf {ms : List ResolvedMigration} {rows : List AppliedMigration}
    (hkeys : DistinctKeys ms) {m : ResolvedMigration} (hm : m ∈ ms) {k : Key}
    (hk : m.key.same k = true) (hlive : isLive rows m.key = false) (request : Request) :
    (infosOf ms rows request).filter (MigrationInfo.isUnappliedOf k)
      = [MigrationInfo.planned m (plannedState request (newestApplied? rows) m)] := by
  have happlied : (rows.map (appliedInfo ms rows)).filter (MigrationInfo.isUnappliedOf k) = [] := by
    simp [MigrationInfo.isUnappliedOf, appliedInfo]
  have hplanned : (unapplied ms rows).filter (fun n => n.key.same k) = [m] := by
    have hnodup : ((unapplied ms rows).filter fun n => n.key.same k).Nodup :=
      ((unapplied_perm ms rows).nodup_iff.2 (hkeys.nodup.filter _)).filter _
    refine List.perm_singleton.1 ((List.perm_ext_iff_of_nodup hnodup (by simp)).2 fun n => ?_)
    rw [List.mem_filter, mem_unapplied, List.mem_singleton]
    constructor
    · rintro ⟨⟨hn, -⟩, hnk⟩
      rw [Key.same_comm] at hk
      exact hkeys.eq_of_same hn hm (Key.same_trans hnk hk)
    · rintro rfl
      exact ⟨⟨hm, hlive⟩, hk⟩
  -- a list of one element is known up to order, so the sorting does not matter
  refine List.perm_singleton.1 (((infosOf_perm ms rows request).filter _).trans ?_)
  rw [List.filter_append, happlied, List.nil_append, List.filter_map]
  have hcomp : (MigrationInfo.isUnappliedOf k ∘ fun n =>
      MigrationInfo.planned n (plannedState request (newestApplied? rows) n))
        = fun n => n.key.same k := by
    funext n
    simp [MigrationInfo.isUnappliedOf, MigrationInfo.planned]
  rw [hcomp, hplanned]
  exact List.Perm.refl _

/-- What waits to run is listed, in a state that waits. -/
@[simp] theorem InfoService.mem_pending {s : InfoService} {i : MigrationInfo} :
    i ∈ s.pending ↔ i ∈ s.infos ∧ i.state.isPending = true := by
  simp [InfoService.pending]

/-- A discovered script, when nothing but the version, the script and the checksum matters. -/
def Plain.migration (version : Option Version) (script : String) (checksum : Int32) :
    ResolvedMigration where
  version := version
  description := ""
  script := script
  checksum := some checksum
  equivalentChecksum := none
  kind := .core .sql
  physicalLocation := none
  executable := false

end MigrationLedger
