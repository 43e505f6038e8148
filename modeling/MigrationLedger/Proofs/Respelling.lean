import MigrationLedger.Proofs.Pointwise
import MigrationLedger.Reconcile

/-!
# Other spellings of versions

Versions that compare as equal are one version in two spellings: `1`, `01` and `1.0`.  Data in
another spelling is the same data, but for the texts of the versions that it holds.  What is said of
versions by comparing them is said of their other spellings as well: keys are the same ones, infos
have the same places in a listing, the same patterns cover them.

## Main definitions

* `Version.Same` — one version in two spellings.
* `ResolvedMigration.IsRespelling`, `AppliedMigration.IsRespelling`, `Request.IsRespelling` and
  their like — nothing but the spelling of versions differs.
* `SameOutcome` — calls that succeed with related results, or fail alike.

## Main results

* `Key.IsRespelling.same_eq` — respelled keys are the same ones.
* `MigrationInfo.IsRespelling.compareRank_eq` — a respelled info has the same place in a listing.
* `MigrationInfo.IsRespelling.ofInfo` — an error names the version of its info as it is spelled.
-/

namespace MigrationLedger

/-- One version in two spellings: leading zeros of a component, zero components at the end and the
choice of separators make no difference. -/
def Version.Same (v w : Version) : Prop := compare v w = .eq

/-! ### The two sides of an info -/

/-- The migration `n` is `m` with another spelling of its version. -/
structure ResolvedMigration.IsRespelling (m n : ResolvedMigration) : Prop where
  /-- The versions are the same. -/
  version : Option.Rel Version.Same m.version n.version
  /-- So is everything else. -/
  rest : n = { m with version := n.version }

/-- The row `b` is `a` with another spelling of its version. -/
structure AppliedMigration.IsRespelling (a b : AppliedMigration) : Prop where
  /-- The versions are the same. -/
  version : Option.Rel Version.Same a.version b.version
  /-- So is everything else. -/
  rest : b = { a with version := b.version }

/-- The key `l` is `k` with another spelling of its version. -/
structure Key.IsRespelling (k l : Key) : Prop where
  /-- The versions are the same. -/
  version : Option.Rel Version.Same k.version l.version
  /-- So are the scripts. -/
  script : k.script = l.script

theorem Key.IsRespelling.compare_eq {k l : Key} (h : k.IsRespelling l) : compare k l = .eq :=
  Key.compare_eq_iff.2 ⟨compare_eq_of_rel h.version, h.script⟩

theorem Key.IsRespelling.same_eq {k l k' l' : Key} (hk : k.IsRespelling l)
    (hk' : k'.IsRespelling l') : k.same k' = l.same l' := by
  rw [Key.same, Key.same, compare_congr hk.compare_eq hk'.compare_eq]

namespace ResolvedMigration.IsRespelling

variable {m n : ResolvedMigration} (h : m.IsRespelling n)
include h

theorem script_eq : m.script = n.script := (congrArg ResolvedMigration.script h.rest).symm

theorem key : m.key.IsRespelling n.key := ⟨h.version, h.script_eq⟩

theorem checksum_eq : m.checksum = n.checksum :=
  (congrArg ResolvedMigration.checksum h.rest).symm

theorem checksumMatches_eq (recorded : Option Int32) :
    m.checksumMatches recorded = n.checksumMatches recorded := by
  rw [h.rest]
  rfl

end ResolvedMigration.IsRespelling

namespace AppliedMigration.IsRespelling

variable {a b : AppliedMigration} (h : a.IsRespelling b)
include h

theorem script_eq : a.script = b.script := (congrArg AppliedMigration.script h.rest).symm

theorem key : a.key.IsRespelling b.key := ⟨h.version, h.script_eq⟩

theorem kind_eq : a.kind = b.kind := (congrArg AppliedMigration.kind h.rest).symm

theorem isTombstone_eq : a.isTombstone = b.isTombstone := congrArg Kind.isTombstone h.kind_eq

theorem installedRank_eq : a.installedRank = b.installedRank :=
  (congrArg AppliedMigration.installedRank h.rest).symm

theorem checksum_eq : a.checksum = b.checksum := (congrArg AppliedMigration.checksum h.rest).symm

theorem success_eq : a.success = b.success := (congrArg AppliedMigration.success h.rest).symm

theorem compareRank_eq : AppliedMigration.compareRank a b = .eq :=
  compareOn_eq h.installedRank_eq

end AppliedMigration.IsRespelling

/-! ### Requests -/

/-- One target, a given version perhaps in another spelling. -/
inductive Target.IsRespelling : Target → Target → Prop
  /-- Everything discovered, both times. -/
  | latest : IsRespelling .latest .latest
  /-- The newest applied version, both times. -/
  | current : IsRespelling .current .current
  /-- A given version. -/
  | version {v w : Version} : v.Same w → IsRespelling (.version v) (.version w)

theorem Target.IsRespelling.limit {t u : Target} (h : t.IsRespelling u)
    {newest newest' : Option Version} (hnewest : Option.Rel Version.Same newest newest') :
    Option.Rel Version.Same (t.limit newest) (u.limit newest') := by
  cases h with
  | latest => exact .none
  | current => exact hnewest
  | version hvw => exact .some hvw

/-- The second request is the first one with another spelling of its target. -/
structure Request.IsRespelling (r s : Request) : Prop where
  /-- The targets are the same. -/
  target : r.target.IsRespelling s.target
  /-- So is everything else. -/
  rest : s = { r with target := s.target }

/-- The second settings are the first ones with another spelling of their target. -/
structure MigrationSettings.IsRespelling (r s : MigrationSettings) : Prop where
  /-- The targets are the same. -/
  target : r.target.IsRespelling s.target
  /-- So is everything else. -/
  rest : s = { r with target := s.target }

/-! ### Infos -/

theorem PatternType.covers_eq_of_rel {v w : Option Version} (h : Option.Rel Version.Same v w) :
    ∀ t : PatternType, t.covers v = t.covers w
  | .any => rfl
  | .versioned => isSome_eq_of_rel h
  | .repeatable => by
    rw [PatternType.covers, PatternType.covers, ← Option.not_isSome, isSome_eq_of_rel h,
      Option.not_isSome]

/-- The infos show the same sides in the same state. -/
structure MigrationInfo.IsRespelling (i j : MigrationInfo) : Prop where
  /-- The discovered sides. -/
  resolved : Option.Rel ResolvedMigration.IsRespelling i.resolved j.resolved
  /-- The ledger sides. -/
  applied : Option.Rel AppliedMigration.IsRespelling i.applied j.applied
  /-- The states. -/
  state : i.state = j.state

namespace MigrationInfo.IsRespelling

variable {i j : MigrationInfo} (h : i.IsRespelling j)
include h

theorem version : Option.Rel Version.Same i.version j.version := by
  obtain ⟨m, a, state⟩ := i
  obtain ⟨n, b, state'⟩ := j
  obtain ⟨hresolved, happlied, -⟩ := h
  dsimp only at hresolved happlied
  cases happlied with
  | some hab => exact hab.version
  | none =>
    cases hresolved with
    | none => exact .none
    | some hmn => exact hmn.version

theorem script_eq : i.script = j.script := by
  obtain ⟨m, a, state⟩ := i
  obtain ⟨n, b, state'⟩ := j
  obtain ⟨hresolved, happlied, -⟩ := h
  dsimp only at hresolved happlied
  cases hresolved with
  | some hmn => exact hmn.script_eq
  | none =>
    cases happlied with
    | none => rfl
    | some hab => exact hab.script_eq

theorem part_eq : i.part = j.part := by
  rw [part, part, isSome_eq_of_rel h.applied, isSome_eq_of_rel h.version]

theorem installedRank_eq : i.installedRank = j.installedRank := by
  have happlied := h.applied
  unfold MigrationInfo.installedRank
  generalize i.applied = a, j.applied = b at happlied
  cases happlied with
  | none => rfl
  | some hab => exact hab.installedRank_eq

theorem rankKey : i.rankKey.IsRespelling j.rankKey := by
  have happlied := h.applied
  unfold MigrationInfo.rankKey
  generalize i.applied = a, j.applied = b at happlied
  cases happlied with
  | none => exact ⟨h.version, h.script_eq⟩
  | some hab => exact ⟨.none, hab.script_eq⟩

theorem compareRank_eq : compareRank i j = .eq :=
  compareLex_eq (compareOn_eq h.part_eq)
    (compareLex_eq (compareOn_eq h.installedRank_eq) h.rankKey.compare_eq)

instance : Std.TransCmp InfoService.compareCurrent :=
  inferInstanceAs <| Std.TransCmp <|
    compareLex (compareOn MigrationInfo.version) MigrationInfo.compareRank

theorem compareCurrent_eq : InfoService.compareCurrent i j = .eq :=
  compareLex_eq (compare_eq_of_rel h.version) h.compareRank_eq

/-- The order in which infos wait to run. -/
theorem compareResolvedKey_eq :
    compareOn (fun i : MigrationInfo => i.resolved.map ResolvedMigration.key) i j = .eq :=
  compare_eq_of_rel (rel_map (fun _ _ hm => hm.key.compare_eq) h.resolved)

theorem covers_eq (p : IgnorePattern) : p.covers i = p.covers j := by
  rw [IgnorePattern.covers, IgnorePattern.covers, h.state, p.type.covers_eq_of_rel h.version]

end MigrationInfo.IsRespelling

/-! ### Answers -/

/-- The service holds the same request and the same infos. -/
structure InfoService.IsRespelling (s t : InfoService) : Prop where
  /-- The requests. -/
  request : s.request.IsRespelling t.request
  /-- The infos, in the same order. -/
  infos : List.Forall₂ MigrationInfo.IsRespelling s.infos t.infos

/-- The errors tell the same of the same migration. -/
structure ValidationError.IsRespelling (e f : ValidationError) : Prop where
  /-- The scripts are the same. -/
  script : e.script = f.script
  /-- The versions are told by their texts. -/
  version : ∃ v w, Option.Rel Version.Same v w ∧
    e.version = v.map Version.text ∧ f.version = w.map Version.text
  /-- The same is wrong. -/
  cause : e.cause = f.cause

theorem MigrationInfo.IsRespelling.ofInfo {i j : MigrationInfo} (h : i.IsRespelling j)
    (cause : ValidationError.Cause) :
    (ValidationError.ofInfo i cause).IsRespelling (.ofInfo j cause) :=
  ⟨h.script_eq, ⟨i.version, j.version, h.version, rfl, rfl⟩, rfl⟩

/-- The pairs have the same sides. -/
structure MatchedPair.IsRespelling (p q : MatchedPair) : Prop where
  /-- The discovered sides. -/
  resolved : p.resolved.IsRespelling q.resolved
  /-- The ledger sides. -/
  applied : p.applied.IsRespelling q.applied

/-- The same rows are selected, for the same numbers of pairs and scripts. -/
structure DriftSelection.IsRespelling (s t : DriftSelection) : Prop where
  /-- As many pairs. -/
  matched : s.matched = t.matched
  /-- As many scripts. -/
  candidates : s.candidates = t.candidates
  /-- The drifted rows, in the same order. -/
  drifted : List.Forall₂ AppliedMigration.IsRespelling s.drifted t.drifted
  /-- The superseded rows, in the same order. -/
  superseded : List.Forall₂ AppliedMigration.IsRespelling s.superseded t.superseded

/-! ### Outcomes -/

/-- The errors tell the same.  Only that of a shared key tells a version, by its text. -/
inductive Error.IsRespelling : Error → Error → Prop
  /-- One error. -/
  | same (e : Error) : IsRespelling e e
  /-- Two migrations share a key, and the later one is told of. -/
  | duplicate {script : String} {v w : Option Version} : Option.Rel Version.Same v w →
      IsRespelling (.duplicateMigration script (v.elim "<none>" Version.text))
        (.duplicateMigration script (w.elim "<none>" Version.text))

/-- Two calls succeed with related results, or fail alike. -/
inductive SameOutcome {α β : Type} (R : α → β → Prop) : Except Error α → Except Error β → Prop
  /-- Both succeed. -/
  | ok {a : α} {b : β} : R a b → SameOutcome R (.ok a) (.ok b)
  /-- Both fail. -/
  | error {e f : Error} : e.IsRespelling f → SameOutcome R (.error e) (.error f)

theorem SameOutcome.exists_of_ok {α β : Type} {R : α → β → Prop} {a : α} {y : Except Error β}
    (h : SameOutcome R (.ok a) y) : ∃ b, y = .ok b ∧ R a b := by
  cases h with
  | ok hab => exact ⟨_, rfl, hab⟩

theorem SameOutcome.exists_of_error {α β : Type} {R : α → β → Prop} {e : Error}
    {y : Except Error β} (h : SameOutcome R (.error e) y) :
    ∃ f, y = .error f ∧ e.IsRespelling f := by
  cases h with
  | error he => exact ⟨_, rfl, he⟩

theorem SameOutcome.map {α β γ δ : Type} {R : α → β → Prop} {S : γ → δ → Prop} {f : α → γ}
    {g : β → δ} {x : Except Error α} {y : Except Error β} (hfg : ∀ a b, R a b → S (f a) (g b))
    (h : SameOutcome R x y) : SameOutcome S (x.map f) (y.map g) := by
  cases h with
  | ok hab => exact .ok (hfg _ _ hab)
  | error he => exact .error he

end MigrationLedger
