import MigrationLedger.Discovery
import MigrationLedger.Proofs.Listing
import MigrationLedger.Proofs.Sorting
import MigrationLedger.Proofs.VersionOrder

/-!
# The canonical order of discovered migrations

Discovered migrations are ordered by the name of their kind, by their version, a missing one
first, and by their script.  Nothing else of a migration is looked at, so different migrations may
tie, and ties stay in the order in which the sources handed them out.  A stable sort is determined
by that, hence the sources may sort their migrations or not: what is merged is the same.

## Main definitions

* `mergeResolved` — what several sources handed out, merged.

## Main results

* `ResolvedMigration.compareCanonical_eq_eq_iff` — which migrations tie.
* `discover_eq_mergeResolved`, `discover_fixed` — the migrations of several sources.
* `mergeResolved_eq_ok_iff`, `mergeResolved_eq_error_iff` — the first source that fails decides.
* `canonical_order_merges_sources` — **the canonical order, and the merge of sources in it.**
-/

namespace MigrationLedger

namespace ResolvedMigration

/-- Kind names are compared first, then versions, a missing one first, then scripts. -/
theorem compareCanonical_def (a b : ResolvedMigration) :
    compareCanonical a b = (compare a.kind.name b.kind.name).then
      ((Version.compareOptional a.version b.version).then (compare a.script b.script)) := by
  rw [Version.compareOptional_eq_compare]
  rfl

/-- Migrations tie when their kind names, their versions and their scripts agree. -/
theorem compareCanonical_eq_eq_iff {a b : ResolvedMigration} :
    compareCanonical a b = .eq ↔ a.kind.name = b.kind.name ∧
      Version.compareOptional a.version b.version = .eq ∧ a.script = b.script := by
  rw [compareCanonical_def, Ordering.then_eq_eq, Ordering.then_eq_eq, Std.compare_eq_iff_eq,
    Std.compare_eq_iff_eq]

theorem isStableSort_iff_eq_sortCanonical {ms sorted : List ResolvedMigration} :
    IsStableSort compareCanonical ms sorted ↔ sorted = sortCanonical ms := by
  constructor
  · exact IsStableSort.eq_sortBy
  · rintro rfl
    exact isStableSort_sortBy ms

theorem sortCanonical_sortCanonical (ms : List ResolvedMigration) :
    sortCanonical (sortCanonical ms) = sortCanonical ms :=
  sortBy_eq_self (pairwise_sortBy compareCanonical ms)

end ResolvedMigration

open ResolvedMigration (compareCanonical sortCanonical)

/-! ### Merging what sources hand out -/

/-- What several sources handed out, merged into canonical order. -/
def mergeResolved (rs : List (Except Error (List ResolvedMigration))) :
    Except Error (List ResolvedMigration) :=
  (rs.mapM id).map fun mss => sortCanonical mss.flatten

theorem collect_eq_mapM (ss : List Source) :
    collect ss = ((ss.map Source.resolve).mapM id).map List.flatten := by
  induction ss with
  | nil => rfl
  | cons s ss ih =>
    rw [collect, List.map_cons, List.mapM_cons, ih, id]
    cases s.resolve with
    | error e => rfl
    | ok ms => cases (ss.map Source.resolve).mapM id <;> rfl

/-- What the sources hand out decides what is discovered. -/
theorem discover_eq_mergeResolved (ss : List Source) :
    discover ss = mergeResolved (ss.map Source.resolve) := by
  rw [discover, collect_eq_mapM, mergeResolved]
  cases (ss.map Source.resolve).mapM id <;> rfl

/-- Sources that do not fail are merged as if they were one, ties included. -/
theorem discover_fixed (mss : List (List ResolvedMigration)) :
    discover (mss.map Source.fixed) = .ok (sortCanonical mss.flatten) := by
  rw [discover_eq]
  exact congrArg _ (sortBy_flatMap_sortBy mss)

/-- Where no two migrations tie, it does not matter which source hands out which of them, and in
which order. -/
theorem discover_fixed_eq_of_perm {mss mss' : List (List ResolvedMigration)}
    (hperm : mss.flatten.Perm mss'.flatten)
    (hne : mss.flatten.Pairwise fun a b => compareCanonical a b ≠ .eq) :
    discover (mss.map Source.fixed) = discover (mss'.map Source.fixed) := by
  rw [discover_fixed, discover_fixed]
  exact congrArg _ (sortBy_eq_sortBy_of_perm hne hperm)

/-- Going through results from the left ends at the first failure, or gives all of them. -/
theorem mapM_id_append {α ε : Type} (as : List α) (rs : List (Except ε α)) :
    (as.map Except.ok ++ rs).mapM id = (rs.mapM id).map (as ++ ·) := by
  induction as with
  | nil => cases hrs : rs.mapM id <;> simp [hrs, Except.map]
  | cons a as ih =>
    rw [List.map_cons, List.cons_append, List.mapM_cons, ih]
    cases rs.mapM id <;> rfl

/-- Results are all there, or one of them is the first failure. -/
theorem exists_first_error {α ε : Type} (rs : List (Except ε α)) :
    (∃ as : List α, rs = as.map Except.ok) ∨
      ∃ (as : List α) (e : ε) (rest : List (Except ε α)),
        rs = as.map Except.ok ++ .error e :: rest := by
  induction rs with
  | nil => exact .inl ⟨[], rfl⟩
  | cons r rs ih =>
    cases r with
    | error e => exact .inr ⟨[], e, rs, rfl⟩
    | ok a =>
      rcases ih with ⟨as, rfl⟩ | ⟨as, e, rest, rfl⟩
      · exact .inl ⟨a :: as, rfl⟩
      · exact .inr ⟨a :: as, e, rest, rfl⟩

theorem mergeResolved_ok (mss : List (List ResolvedMigration)) :
    mergeResolved (mss.map Except.ok) = .ok (sortCanonical mss.flatten) := by
  have h := mapM_id_append mss ([] : List (Except Error (List ResolvedMigration)))
  rw [List.append_nil] at h
  rw [mergeResolved, h]
  simp [Except.map, pure, Except.pure]

theorem mergeResolved_error (mss : List (List ResolvedMigration)) (e : Error)
    (rest : List (Except Error (List ResolvedMigration))) :
    mergeResolved (mss.map Except.ok ++ .error e :: rest) = .error e := by
  rw [mergeResolved, mapM_id_append]
  rfl

/-- What no source fails to hand out is merged. -/
theorem mergeResolved_eq_ok_iff {rs : List (Except Error (List ResolvedMigration))}
    {ms : List ResolvedMigration} :
    mergeResolved rs = .ok ms ↔ ∃ mss : List (List ResolvedMigration),
      rs = mss.map Except.ok ∧ ms = sortCanonical mss.flatten := by
  constructor
  · intro h
    rcases exists_first_error rs with ⟨mss, rfl⟩ | ⟨mss, e, rest, rfl⟩
    · rw [mergeResolved_ok] at h
      exact ⟨mss, rfl, (Except.ok.inj h).symm⟩
    · rw [mergeResolved_error] at h
      exact nomatch h
  · rintro ⟨mss, rfl, rfl⟩
    exact mergeResolved_ok mss

/-- A merge fails as the first source that fails. -/
theorem mergeResolved_eq_error_iff {rs : List (Except Error (List ResolvedMigration))} {e : Error} :
    mergeResolved rs = .error e ↔ ∃ (mss : List (List ResolvedMigration))
      (rest : List (Except Error (List ResolvedMigration))),
      rs = mss.map Except.ok ++ .error e :: rest := by
  constructor
  · intro h
    rcases exists_first_error rs with ⟨mss, rfl⟩ | ⟨mss, e', rest, rfl⟩
    · rw [mergeResolved_ok] at h
      exact nomatch h
    · rw [mergeResolved_error] at h
      exact ⟨mss, rest, by rw [Except.error.inj h]⟩
  · rintro ⟨mss, rest, rfl⟩
    exact mergeResolved_error mss e rest

/-- **The canonical order is total, and sources are merged in it.**  Migrations tie exactly when
their kind names, versions and scripts agree.  Sorting is stable, which determines it, and changes
nothing the second time.  Sources are merged as if they were one, ties included, so that without
ties it does not matter how the migrations are spread over them; the first source that fails
decides. -/
theorem canonical_order_merges_sources :
    (∀ a b, compareCanonical a b = (compareCanonical b a).swap) ∧
    (∀ a b c, (compareCanonical a b).isLE = true → (compareCanonical b c).isLE = true →
      (compareCanonical a c).isLE = true) ∧
    (∀ a b, compareCanonical a b = .eq ↔ a.kind.name = b.kind.name ∧
      Version.compareOptional a.version b.version = .eq ∧ a.script = b.script) ∧
    (∀ ms sorted, IsStableSort compareCanonical ms sorted ↔ sorted = sortCanonical ms) ∧
    (∀ ms, sortCanonical (sortCanonical ms) = sortCanonical ms) ∧
    (∀ mss : List (List ResolvedMigration),
      discover (mss.map Source.fixed) = .ok (sortCanonical mss.flatten)) ∧
    (∀ mss mss' : List (List ResolvedMigration), mss.flatten.Perm mss'.flatten →
      mss.flatten.Pairwise (fun a b => compareCanonical a b ≠ .eq) →
      discover (mss.map Source.fixed) = discover (mss'.map Source.fixed)) ∧
    (∀ ss : List Source, discover ss = mergeResolved (ss.map Source.resolve)) ∧
    ∀ (rs : List (Except Error (List ResolvedMigration))),
      (∀ ms, mergeResolved rs = .ok ms ↔ ∃ mss : List (List ResolvedMigration),
        rs = mss.map Except.ok ∧ ms = sortCanonical mss.flatten) ∧
      ∀ e, mergeResolved rs = .error e ↔ ∃ (mss : List (List ResolvedMigration))
        (rest : List (Except Error (List ResolvedMigration))),
        rs = mss.map Except.ok ++ .error e :: rest :=
  ⟨fun _ _ => Std.OrientedCmp.eq_swap, fun _ _ _ => Std.TransCmp.isLE_trans,
    fun _ _ => ResolvedMigration.compareCanonical_eq_eq_iff,
    fun _ _ => ResolvedMigration.isStableSort_iff_eq_sortCanonical,
    ResolvedMigration.sortCanonical_sortCanonical, discover_fixed,
    fun _ _ => discover_fixed_eq_of_perm, discover_eq_mergeResolved,
    fun _ => ⟨fun _ => mergeResolved_eq_ok_iff, fun _ => mergeResolved_eq_error_iff⟩⟩

/-- Two versions and a view are merged alike however two sources share them, and of two sources
that fail the first one is told. -/
theorem canonical_order_merges_sources_spread :
    let table := Plain.migration (some Plain.one) "V1__table.sql" 10
    let index := Plain.migration (some Plain.two) "V2__index.sql" 20
    let view := Plain.migration none "R__view.sql" 30
    discover [.fixed [index, view], .fixed [table]] = .ok [view, table, index] ∧
      discover [.fixed [table], .fixed [view, index]] = .ok [view, table, index] ∧
      discover [.fixed [view], .failing "first", .failing "second"]
        = .error (.resolver "first") := by
  intro table index view
  obtain ⟨-, -, -, -, -, hfixed, hspread, hmerge, hresult⟩ := canonical_order_merges_sources
  have hsorted : sortCanonical [index, view, table] = [view, table, index] :=
    sortBy_eq_of_perm (by decide) (by decide)
  have hdiscover : discover ([[index, view], [table]].map Source.fixed) = .ok [view, table, index] :=
    (hfixed _).trans (congrArg _ hsorted)
  refine ⟨hdiscover, ?_, ?_⟩
  · exact (hspread [[index, view], [table]] [[table], [view, index]] (by decide) (by decide)).symm.trans
      hdiscover
  · rw [hmerge]
    exact ((hresult _).2 _).2 ⟨[sortCanonical [view]], [.error (.resolver "second")], rfl⟩

end MigrationLedger
